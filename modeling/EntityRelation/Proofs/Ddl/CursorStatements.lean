import EntityRelation.Proofs.Ddl.CursorColumns

/-!
# Reading statements with a cursor

The clauses of a table body and the actions of an alteration are walked one by one, each as a list
of its own, and none of these walks has a fault. So the walk over a statement has none either, and
gives the draft that the import gives (`Walk.reads_without_fault`). What the theorem says about
positions holds for lexemes in any order, with parentheses that have no partner and clauses that
break off.
-/

namespace EntityRelation

namespace Ddl

namespace Walk

open Clause

variable {lexemes c rest : Clause}

/-! ## Clauses and actions -/

theorem addClause_eq (index line : Nat) (columns : TableDraft)
    (constraints : List TableConstraint) (clause : Clause) :
    addClause index line (columns, constraints) clause =
      match TableConstraint.ofClause? clause with
      | some constraint => .ok (columns, constraints ++ [constraint])
      | none => .ok (columns.addColumn index line clause, constraints) := by
  rw [addClause, through_constraint]
  cases TableConstraint.ofClause? clause with
  | some constraint => rfl
  | none =>
      change (through column clause >>= fun read => _) = _
      rw [through_column]
      rfl

/-- One pass over the clauses collects the columns and the constraints. -/
theorem foldlM_addClause (index line : Nat) (columns : TableDraft)
    (constraints : List TableConstraint) (clauses : List Clause) :
    clauses.foldlM (addClause index line) (columns, constraints) =
      .ok (columns.addColumns index line clauses,
        constraints ++ clauses.filterMap TableConstraint.ofClause?) := by
  induction clauses generalizing columns constraints with
  | nil => rw [List.filterMap_nil, List.append_nil]; rfl
  | cons clause clauses ih =>
      rw [List.foldlM_cons, addClause_eq, TableDraft.addColumns, List.filter_cons,
        List.filterMap_cons]
      cases TableConstraint.ofClause? clause with
      | some constraint =>
          have hrest := ih columns (constraints ++ [constraint])
          rw [List.append_assoc] at hrest
          exact hrest
      | none => exact ih (columns.addColumn index line clause) constraints

theorem addTable_eq (draft : Draft) (s : Statement) (name : String) (body : Clause) :
    addTable draft s name body = .ok (draft.addTable s name body) := by
  rw [addTable, Draft.addTable]
  split
  · rfl
  · rw [splitTopLevel_eq]
    change (body.splitTopLevel.foldlM (addClause draft.entities.length s.line)
      (Draft.newTable draft.entities.length s name, []) >>= fun read => _) = _
    rw [foldlM_addClause, List.nil_append]
    exact (apply_ite Except.ok _ _ _).symm

theorem through_addAction (index line : Nat) (draft : TableDraft) (action : Clause) :
    through (addAction index line draft) action = .ok (draft.addAction index line action) := by
  suffices h : ∃ after, Reads action (addAction index line draft action) action
      (draft.addAction index line action) after from h.elim fun _ => through_eq_ok
  rw [addAction, TableDraft.addAction]
  cases hadd : action.after? [.add] with
  | none => exact ⟨_, ((reads_eatKeyword .add).of_none hadd).bind (Reads.pure draft)⟩
  | some clause =>
      have hword : Reads action _ _ true _ := (reads_eatKeyword .add).of_some hadd
      have hconstraint : Reads action _ clause _ clause :=
        Reads.lift fun _ => through_constraint clause
      dsimp only
      cases hof : TableConstraint.ofClause? clause with
      | some constraint =>
          rw [hof] at hconstraint
          exact ⟨_, hword.bind (reads_remaining.bind (hconstraint.bind (Reads.pure _)))⟩
      | none =>
          rw [hof] at hconstraint
          have hwords : Reads action _ clause () _ := (reads_eatKeyword .column clause).discard
          have hwords' : Reads action _ (clause.skip [.column]) () _ :=
            (reads_eatKeywords [.ifWord, .notWord, .existsWord] _).discard
          generalize (clause.skip [.column]).skip [.ifWord, .notWord, .existsWord] = definition at *
          have hcolumn : Reads action _ definition _ definition :=
            Reads.lift fun _ => through_column definition
          have hadded : Reads action _ definition _ definition :=
            Reads.pure (draft.addColumn index line definition)
          exact ⟨_, hword.bind (reads_remaining.bind (hconstraint.bind (hwords.bind
            (hwords'.bind (reads_remaining.bind (hcolumn.bind hadded))))))⟩

/-! ## Tables -/

/-- A body is cut between the parenthesis that opens it and the one that closes it. -/
theorem exists_reads_tableHeader (lexemes c : Clause) :
    ∃ after, Reads lexemes (tableHeader lexemes) c (Ddl.tableHeader c) after := by
  have hwords : Reads lexemes _ c () _ :=
    (reads_eatKeywords [.ifWord, .notWord, .existsWord] c).discard
  rw [tableHeader, Ddl.tableHeader]
  generalize c.skip [.ifWord, .notWord, .existsWord] = named at hwords ⊢
  have hname : Reads lexemes _ named _ _ := reads_tableName
  cases htable : named.tableName? with
  | none =>
      rw [htable] at hname
      exact ⟨_, hwords.bind (hname.bind (Reads.pure _))⟩
  | some target =>
      obtain ⟨name, rest⟩ := target
      rw [htable, Option.map_some, Option.map_some, Option.getD_some] at hname
      refine ⟨rest, hwords.bind (hname.bind ((reads_sees _).bind ?_))⟩
      cases rest with
      | nil => exact Reads.pure _
      | cons l rest =>
          dsimp only
          by_cases hl : l.token = .leftParen
          · rw [if_pos (by simpa using hl), if_pos hl]
            refine Reads.get.bind fun hc => ?_
            have htail := place_tail hc
            refine (Reads.bind (Reads.lift fun hc => matchingParen_place hc hl) ?_) hc
            cases hclose : closeGroup? 0 rest with
            | none => exact Reads.pure _
            | some pair =>
                obtain ⟨body, after⟩ := pair
                obtain ⟨-, right, -, rfl⟩ := eq_append_of_closeGroup? hclose
                have hbody : body ++ right :: after <:+ lexemes := (List.suffix_cons l _).trans hc
                have hslice := slice_place hbody
                rw [place_append hbody] at hslice
                rw [← htail]
                refine Reads.bind (Reads.lift fun _ => hslice) ?_
                cases body with
                | nil => exact Reads.pure _
                | cons first body => exact Reads.pure _
          · rw [if_neg (by simpa using hl), if_neg hl]
            exact Reads.pure _

variable (draft : Draft) (s : Statement)

theorem exists_reads_createTable (c : Clause) :
    ∃ after, Reads s.lexemes (createTable draft s) c (draft.createTable s c) after := by
  obtain ⟨after, hheader⟩ := exists_reads_tableHeader s.lexemes c
  refine ⟨after, hheader.bind ?_⟩
  rw [Draft.createTable]
  cases Ddl.tableHeader c with
  | error fault => exact Reads.pure _
  | ok header => exact Reads.lift fun _ => addTable_eq draft s header.1 header.2

theorem exists_reads_alterTable (c : Clause) :
    ∃ after, Reads s.lexemes (alterTable draft s) c (draft.alterTable s c) after := by
  have hwords : Reads s.lexemes _ c () _ := (reads_eatKeyword .only c).discard
  have hwords' : Reads s.lexemes _ (c.skip [.only]) () _ :=
    (reads_eatKeywords [.ifWord, .existsWord] _).discard
  rw [alterTable, Draft.alterTable]
  generalize (c.skip [.only]).skip [.ifWord, .existsWord] = named at hwords' ⊢
  have hname : Reads s.lexemes _ named _ _ := reads_tableName
  refine ⟨(named.tableName?.map (·.2)).getD named, hwords.bind (hwords'.bind (hname.bind ?_))⟩
  cases named.tableName? with
  | none => exact Reads.pure _
  | some target =>
      obtain ⟨name, rest⟩ := target
      simp only [Option.map_some, Option.getD_some]
      cases draft.entities.findIdx? fun e => Text.sameName e.name name with
      | none => exact Reads.pure _
      | some index =>
          dsimp only
          cases draft.entities[index]? with
          | none => exact Reads.pure _
          | some entity =>
              have hactions : Reads s.lexemes _ rest _ rest :=
                Reads.foldlM (fun table action =>
                  Reads.lift fun _ => through_addAction index s.line table action)
                  rest.splitTopLevel { entity }
              exact reads_remaining.bind ((Reads.lift fun _ => splitTopLevel_eq rest).bind
                (hactions.bind (Reads.pure _)))

theorem exists_reads_statement :
    ∃ after, Reads s.lexemes (statement draft s) s.lexemes (draft.add s) after := by
  rw [statement, Draft.add, Statement.kind]
  cases hcreate : s.lexemes.after? [.create] with
  | some rest =>
      have hword : Reads s.lexemes _ _ true _ := (reads_eatKeyword .create).of_some hcreate
      have hwords : Reads s.lexemes _ rest () _ :=
        (reads_eatKeywords [.orWord, .replace] rest).discard
      have hqualities : Reads s.lexemes _ (rest.skip [.orWord, .replace]) () _ :=
        reads_eatAll tableQualities
      dsimp only
      cases htable : ((rest.skip [.orWord, .replace]).skipAll tableQualities).after? [.table] with
      | some rest =>
          obtain ⟨after, hdefinition⟩ := exists_reads_createTable draft s rest
          exact ⟨after, hword.bind (hwords.bind (hqualities.bind
            (((reads_eatKeyword .table).of_some htable).bind hdefinition)))⟩
      | none =>
          exact ⟨_, hword.bind (hwords.bind (hqualities.bind
            (((reads_eatKeyword .table).of_none htable).bind (Reads.pure draft))))⟩
  | none =>
      have hword : Reads s.lexemes _ _ false _ := (reads_eatKeyword .create).of_none hcreate
      dsimp only
      cases halter : s.lexemes.after? [.alter, .table] with
      | some rest =>
          obtain ⟨after, halteration⟩ := exists_reads_alterTable draft s rest
          exact ⟨after, hword.bind (((reads_eatKeywords [.alter, .table]).of_some halter).bind
            halteration)⟩
      | none =>
          exact ⟨_, hword.bind (((reads_eatKeywords [.alter, .table]).of_none halter).bind
            (Reads.pure draft))⟩

/-! ## Positions -/

/-- From a position in the list, a walk gives `a` without a fault and stops in the list. -/
def Ends {α : Type} (lexemes : Clause) (walk : Walk α) (pos : Nat) (a : α) : Prop :=
  ∃ stop ≤ lexemes.length, walk.run pos = .ok (a, stop)

theorem Reads.ends {α : Type} {walk : Walk α} {a : α} {pos : Nat} (hpos : pos ≤ lexemes.length)
    (h : ∃ rest, Reads lexemes walk (lexemes.drop pos) a rest) : Ends lexemes walk pos a := by
  obtain ⟨rest, hreads⟩ := h
  obtain ⟨hrun, -⟩ := hreads (List.drop_suffix pos lexemes)
  rw [place_drop hpos] at hrun
  exact ⟨_, place_le lexemes rest, hrun⟩

/-- Each position before the end is the place of a suffix that starts with the lexeme there. -/
theorem place_getElem {pos : Nat} (hpos : pos < lexemes.length) :
    lexemes[pos] :: lexemes.drop (pos + 1) <:+ lexemes ∧
      place lexemes (lexemes[pos] :: lexemes.drop (pos + 1)) = pos := by
  rw [← List.drop_eq_getElem_cons hpos]
  exact ⟨List.drop_suffix pos lexemes, place_drop hpos.le⟩

/-- Each turn of the loop over the modifiers brings the cursor further, also one that steps back to
read a group. -/
theorem exists_run_turn (column : Column) {pos : Nat} (hpos : pos < lexemes.length) :
    ∃ next later, (turn lexemes column).run pos = .ok (some next, later) ∧
      pos < later ∧ later ≤ lexemes.length := by
  obtain ⟨hsuffix, hplace⟩ := place_getElem hpos
  obtain ⟨hrun, -⟩ := reads_turn column hsuffix
  have hlater := place_modifier hsuffix column
  rw [hplace] at hrun hlater
  exact ⟨_, _, hrun, hlater, place_le _ _⟩

/-- From an opening parenthesis on, one is never taken from no open group. -/
theorem exists_matchingParen {start : Nat} (hstart : start < lexemes.length)
    (hl : lexemes[start].token = .leftParen) :
    ∃ close?, matchingParen lexemes start = .ok close? ∧
      ∀ close ∈ close?, start < close ∧ close < lexemes.length := by
  obtain ⟨hsuffix, hplace⟩ := place_getElem hstart
  have hmatching := matchingParen_place hsuffix hl
  have htail := place_tail hsuffix
  rw [hplace] at hmatching htail
  refine ⟨_, hmatching, fun close hclose => ?_⟩
  obtain ⟨⟨inner, rest⟩, hgroup, rfl⟩ := Option.map_eq_some_iff.1 hclose
  obtain ⟨-, right, -, hinner⟩ := eq_append_of_closeGroup? hgroup
  have hlength := congrArg List.length hinner
  rw [List.length_drop, List.length_append, List.length_cons] at hlength
  dsimp only
  omega

/-- Begun elsewhere, the search can go wrong. -/
example : matchingParen [⟨.rightParen, ")", .start, false⟩] 0 = .error .underflow := by rfl

/-- The walks over clauses and statements end without a fault, whatever the lexemes are: the cursor
stays in the list, each slice has its ends in order and in the list, and nothing is taken from zero.
They give what the readers of clauses give. Moreover every turn of the loop over modifiers brings
the cursor further, and the search for the end of a group, begun at an opening parenthesis, finds
none or a later position in the list. -/
theorem reads_without_fault (lexemes : Clause) (draft : Draft) (s : Statement) :
    Ends lexemes (column lexemes) 0 (Column.ofClause lexemes) ∧
      Ends lexemes (constraint lexemes) 0 (TableConstraint.ofClause? lexemes) ∧
      (∀ pos ≤ s.lexemes.length,
        Ends s.lexemes (createTable draft s) pos (draft.createTable s (s.lexemes.drop pos)) ∧
          Ends s.lexemes (alterTable draft s) pos (draft.alterTable s (s.lexemes.drop pos))) ∧
      Ends s.lexemes (statement draft s) 0 (draft.add s) ∧
      (∀ (column : Column) (pos : Nat), pos < lexemes.length →
        ∃ next later, (turn lexemes column).run pos = .ok (some next, later) ∧
          pos < later ∧ later ≤ lexemes.length) ∧
      ∀ (start : Nat) (hstart : start < lexemes.length), lexemes[start].token = .leftParen →
        ∃ close?, matchingParen lexemes start = .ok close? ∧
          ∀ close ∈ close?, start < close ∧ close < lexemes.length :=
  ⟨Reads.ends (Nat.zero_le _) (exists_reads_column lexemes),
    Reads.ends (Nat.zero_le _) (exists_reads_constraint lexemes),
    fun _ hpos => ⟨Reads.ends hpos (exists_reads_createTable draft s _),
      Reads.ends hpos (exists_reads_alterTable draft s _)⟩,
    Reads.ends (Nat.zero_le _) (exists_reads_statement draft s),
    fun column _ hpos => exists_run_turn column hpos,
    fun _ hstart hl => exists_matchingParen hstart hl⟩

/-- The lexemes of `a INT UNIQUE ) ( ,`, where no parenthesis has a partner. -/
def unpaired : Clause :=
  [⟨.word "a", "a", .start, false⟩, ⟨.word "INT", "INT", .start, true⟩,
    ⟨.word "UNIQUE", "UNIQUE", .start, true⟩, ⟨.rightParen, ")", .start, true⟩,
    ⟨.leftParen, "(", .start, true⟩, ⟨.comma, ",", .start, true⟩]

theorem reads_without_fault_unpaired :
    (4 < unpaired.length ∧ unpaired[4]?.any (·.token == .leftParen) = true) ∧
      Ends unpaired (column unpaired) 0
        (.ok { name := "a", dataType := "INT", isUnique := true }) ∧
      Ends unpaired (createTable {} ⟨unpaired, []⟩) 4
        ({ skipped := [⟨1, .missingName, "a INT UNIQUE ) ( ,"⟩] } : Draft) ∧
      (∃ next later, (turn unpaired { name := "a", dataType := "INT" }).run 4 =
        .ok (some next, later) ∧ 4 < later ∧ later ≤ 6) ∧
      ∃ close?, matchingParen unpaired 4 = .ok close? ∧
        ∀ close ∈ close?, 4 < close ∧ close < 6 := by
  obtain ⟨hcolumn, -, htables, -, hturn, hparen⟩ :=
    reads_without_fault unpaired {} ⟨unpaired, []⟩
  have hread : Column.ofClause unpaired =
      .ok { name := "a", dataType := "INT", isUnique := true } := by
    decide +kernel
  have hskipped : Draft.createTable {} ⟨unpaired, []⟩ (unpaired.drop 4) =
      { skipped := [⟨1, .missingName, "a INT UNIQUE ) ( ,"⟩] } := by
    rfl
  exact ⟨by decide, hread ▸ hcolumn, hskipped ▸ (htables 4 (by decide)).1, hturn _ 4 (by decide),
    hparen 4 (by decide) rfl⟩

end Walk

end Ddl

end EntityRelation
