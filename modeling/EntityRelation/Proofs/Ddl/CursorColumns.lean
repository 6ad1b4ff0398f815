import EntityRelation.Proofs.Ddl.CursorSteps
import EntityRelation.Proofs.Ddl.ModifierReading

/-!
# Reading columns and constraints with a cursor

Each branch of the loop over the modifiers of a column reads what the reader of that modifier reads,
also the one that steps back in front of a group. Since a modifier leaves a part of what follows its
first lexeme, every turn brings the cursor further (`Walk.reads_turn`), and the loop ends with the
column that the reader gives.
-/

namespace EntityRelation

namespace Ddl

namespace Walk

open Clause

variable {lexemes c rest : Clause} {l : Lexeme}

/-! ## Modifiers -/

theorem reads_readDefault (column : Column) : Reads lexemes (readDefault lexemes column) c
    (column.withDefault (defaultRun c).1.text) (defaultRun c).2 := by
  refine Reads.get.bind fun hc => ?_
  have hrun := defaultRun_append_defaultRun c
  dsimp only
  rw [runEnd_default hc]
  refine Reads.bind (Reads.lift fun _ => ?_) (Reads.bind (Reads.moveTo fun _ => ⟨rfl, ?_⟩)
    (Reads.pure (column.withDefault (defaultRun c).1.text))) hc
  · have hslice := @slice_place lexemes (defaultRun c).1 (defaultRun c).2
    rw [hrun] at hslice
    exact hslice hc
  · exact (defaultRun_suffix c).trans hc

theorem reads_readReference (column : Column) : Reads lexemes (readReference lexemes column) c
    (column.readReference c).1 (column.readReference c).2 := by
  refine reads_tableName.bind ?_
  rw [Column.readReference]
  cases c.tableName? with
  | none => exact Reads.pure column
  | some target =>
      obtain ⟨table, rest⟩ := target
      refine reads_group.bind ?_
      simp only [Option.map_some, Option.getD_some, skipGroup]
      cases rest.group? with
      | none => exact Reads.pure _
      | some pair => exact (Reads.lift fun _ => columnNames_eq pair.1).bind (Reads.pure _)

theorem reads_readGenerated (column : Column) : Reads lexemes (readGenerated lexemes column) c
    (column.readGenerated c).1 (column.readGenerated c).2 := by
  refine (reads_eatKeyword .always c).discard.bind ((reads_eatKeywords _ _).discard.bind ?_)
  rw [Column.readGenerated]
  generalize (c.skip [.always]).skip [.byWord, .defaultWord] = c
  dsimp only
  cases hafter : c.after? [.asWord] with
  | none => exact ((reads_eatKeyword .asWord).of_none hafter).bind (Reads.pure column)
  | some rest =>
      refine ((reads_eatKeyword .asWord).of_some hafter).bind ?_
      have hnumbered : (rest.after? [.identity]).isSome = rest.startsWith .identity :=
        isSome_after? .identity rest
      dsimp only
      rw [← hnumbered]
      exact (reads_eatKeyword .identity rest).bind (reads_group.discard.bind
        ((reads_eatAny _).discard.bind (Reads.pure _)))

theorem reads_skipComputed : Reads lexemes (skipComputed lexemes) c () (Column.skipComputed c) := by
  refine reads_group.discard.bind ?_
  rw [Column.skipComputed]
  generalize c.skipGroup = c
  cases c with
  | nil => exact (reads_eatAny _).bind (reads_eat_of_false rfl).discard
  | cons l more =>
      have hany : Reads lexemes _ (l :: more) _ _ := reads_eatAny_cons [.stored, .virtual]
      by_cases hkept : l.isAny [.stored, .virtual] = true
      · rw [hkept, if_pos rfl] at hany
        simp only [hkept, Bool.true_or, if_true]
        exact hany.bind (Reads.pure ())
      · rw [Bool.not_eq_true] at hkept
        rw [hkept] at hany
        refine hany.bind ?_
        by_cases hspelled : l.isSpelled "PERSISTED" = true
        · simp only [hkept, hspelled, Bool.or_true, if_true]
          exact (reads_eat_of_true hspelled).discard
        · rw [Bool.not_eq_true] at hspelled
          simp only [hkept, hspelled, Bool.or_false]
          have hword : Reads lexemes (eat lexemes (·.isSpelled "PERSISTED")) (l :: more) _ _ :=
            reads_eat_of_false hspelled
          exact hword.discard

theorem reads_skipAction : Reads lexemes (skipAction lexemes) c () (Column.skipAction c) := by
  refine (reads_eatAny _).discard.bind ?_
  rw [Column.skipAction]
  generalize c.skipAny [.update, .delete] = c
  cases c with
  | nil => exact (reads_eatAny _).bind (reads_next.discard.bind reads_group.discard)
  | cons l more =>
      refine (reads_eatAny_cons _).bind ?_
      dsimp only
      split
      · exact reads_next.discard
      · exact reads_next.discard.bind reads_group.discard

theorem reads_readNull (column : Column) : Reads lexemes (readNull lexemes column) c
    (if c.startsWith .null then { column with isNotNull := true } else column)
    (if c.startsWith .null then c.drop 1 else c) := by
  cases hafter : c.after? [.null] with
  | none =>
      have hstarts : c.startsWith .null = false := by rw [← isSome_after?, hafter]; rfl
      rw [hstarts]
      exact ((reads_eatKeyword .null).of_none hafter).bind (Reads.pure column)
  | some rest =>
      have hstarts : c.startsWith .null = true := by rw [← isSome_after?, hafter]; rfl
      obtain ⟨words, rfl, hlength⟩ := exists_of_after? hafter
      have hdrop : (words ++ rest).drop 1 = rest := List.drop_left' hlength
      rw [hstarts, if_pos rfl, if_pos rfl, hdrop]
      exact ((reads_eatKeyword .null).of_some hafter).bind (Reads.pure _)

/-- The branch that steps back stands in front of a group then, and passes over it. -/
theorem reads_stepBack (h : l :: rest <:+ lexemes) :
    Reads lexemes (stepBack lexemes) rest () (l :: rest) := by
  intro hrest
  have hback := place_tail h
  have hmove :
      Reads lexemes (Walk.moveTo lexemes (place lexemes (l :: rest))) rest () (l :: rest) :=
    Reads.moveTo fun _ => ⟨rfl, h⟩
  obtain ⟨hrun, -⟩ := hmove hrest
  rw [hback] at hrun ⊢
  exact ⟨hrun, h⟩

theorem reads_modifier (column : Column) (h : l :: rest <:+ lexemes) :
    Reads lexemes (modifier lexemes column l) rest (column.modifier l rest).1
      (column.modifier l rest).2 := by
  rw [modifier]
  split
  case h_18 =>
    have hmodifier : column.modifier l rest =
        if l.token = .leftParen then (column, skipGroup (l :: rest))
        else if l.token.isWord then (column, rest.skipGroup) else (column, rest) := by
      rw [Column.modifier]
      split
      all_goals first
        | rfl
        | contradiction
    rw [hmodifier]
    split
    · exact (reads_stepBack h).bind (reads_group.discard.bind (Reads.pure column))
    · split
      · exact reads_group.discard.bind (Reads.pure column)
      · exact Reads.pure column
  case h_12 hk =>
    obtain ⟨value, hvalue⟩ := isWord_of_keyword? hk
    have hword : l.token.isWord = true := by rw [hvalue]; rfl
    simp only [Column.modifier, hk, if_neg (other_of_keyword? hk).1, if_pos hword]
    exact reads_group.discard.bind (Reads.pure column)
  all_goals
    rename_i hk
    simp only [Column.modifier, hk]
  case h_1 => exact (reads_eatKeyword .key rest).discard.bind (Reads.pure _)
  case h_2 =>
    have hnull : Reads lexemes _ rest _ _ := reads_readNull column
    split
    · next hstarts =>
      rw [if_pos hstarts, if_pos hstarts] at hnull
      exact hnull
    · next hstarts =>
      rw [if_neg hstarts, if_neg hstarts] at hnull
      exact hnull
  case h_3 => exact (reads_eatKeyword .key rest).discard.bind (Reads.pure _)
  case h_4 => exact reads_readDefault column
  case h_5 => exact reads_readReference column
  case h_8 => exact reads_group.discard.bind (Reads.pure _)
  case h_9 => exact reads_readGenerated column
  case h_10 => exact reads_skipComputed.bind (Reads.pure column)
  case h_11 => exact reads_skipAction.bind (Reads.pure column)
  case h_17 =>
    exact (reads_eatKeyword .setWord rest).discard.bind
      (reads_next.discard.bind (Reads.pure column))
  all_goals first
    | exact Reads.pure _
    | exact reads_next.discard.bind (Reads.pure column)

theorem reads_turn (column : Column) : Reads lexemes (turn lexemes column) (l :: rest)
    (some (column.modifier l rest).1) (column.modifier l rest).2 := by
  intro hc
  refine reads_next.bind ?_ hc
  exact (reads_modifier column hc).bind (Reads.pure (some _))

theorem reads_turn_nil (column : Column) : Reads lexemes (turn lexemes column) [] none [] :=
  reads_next.bind (Reads.pure none)

/-- A turn brings the cursor behind the lexeme that it starts with, at least. -/
theorem place_modifier (hc : l :: rest <:+ lexemes) (column : Column) :
    place lexemes (l :: rest) < place lexemes (column.modifier l rest).2 := by
  have hsuffix := (Column.modifier_suffix column l rest).length_le
  have hle := hc.length_le
  rw [List.length_cons] at hle
  rw [place, place, List.length_cons]
  omega

theorem reads_modifiers (column : Column) :
    Reads lexemes (modifiers lexemes column) c (column.modifiers c) [] := by
  fun_induction Column.modifiers column c with
  | case1 column =>
      intro hc
      obtain ⟨hrun, -⟩ := reads_turn_nil column hc
      refine ⟨?_, hc⟩
      rw [StateT.run, modifiers, hrun]
      rfl
  | case2 column l rest ih =>
      intro hc
      obtain ⟨hrun, hleft⟩ := reads_turn column hc
      obtain ⟨hrest, -⟩ := ih hleft
      refine ⟨?_, List.nil_suffix⟩
      rw [StateT.run, modifiers, hrun]
      change (if place lexemes (l :: rest) < place lexemes (column.modifier l rest).2 ∧
        place lexemes (column.modifier l rest).2 ≤ lexemes.length then
          modifiers lexemes (column.modifier l rest).1 (place lexemes (column.modifier l rest).2)
        else throw .stalled) = _
      rw [if_pos ⟨place_modifier hc column, place_le _ _⟩]
      exact hrest

theorem through_eq_ok {α : Type} {walk : Clause → Walk α} {a : α}
    (h : Reads lexemes (walk lexemes) lexemes a rest) : through walk lexemes = .ok a := by
  obtain ⟨hrun, -⟩ := h (List.suffix_refl lexemes)
  rw [place_self] at hrun
  rw [through, hrun]
  rfl

theorem exists_reads_column (lexemes : Clause) :
    ∃ rest, Reads lexemes (column lexemes) lexemes (Column.ofClause lexemes) rest := by
  cases lexemes with
  | nil => exact ⟨_, Reads.pure _⟩
  | cons l rest =>
      have hrest : rest <:+ l :: rest := List.suffix_cons l rest
      have hone : place (l :: rest) rest = 1 := by
        rw [place_tail (List.suffix_refl _), place_self]
      have hstop : runEnd (l :: rest) none 0 1 = place (l :: rest) (run 0 rest).2 := by
        rw [← hone]
        exact runEnd_place hrest none (fun _ h => absurd h (Option.not_mem_none _)) 0
      have htype : slice (l :: rest) 1 (place (l :: rest) (run 0 rest).2) = .ok (run 0 rest).1 := by
        have hslice := @slice_place (l :: rest) (run 0 rest).1 (run 0 rest).2
        rw [run_append_run, hone] at hslice
        exact hslice hrest
      rw [column, Column.ofClause]
      simp only [List.head?_cons]
      cases l.name? with
      | none => exact ⟨_, Reads.pure _⟩
      | some name =>
          simp only [hstop]
          by_cases hempty : (run 0 rest).1.isEmpty = true
          · refine ⟨l :: rest, (Reads.lift fun _ => htype).bind ?_⟩
            rw [if_pos hempty, if_pos hempty]
            exact Reads.pure _
          · refine ⟨[], (Reads.lift fun _ => htype).bind ?_⟩
            rw [if_neg hempty, if_neg hempty]
            refine Reads.bind (Reads.moveTo fun _ => ⟨rfl, (run_suffix 0 rest).trans hrest⟩) ?_
            exact (reads_modifiers _).bind (Reads.pure _)

/-- A column definition is read without a fault, whatever its lexemes are. -/
theorem through_column (lexemes : Clause) :
    through column lexemes = .ok (Column.ofClause lexemes) :=
  (exists_reads_column lexemes).elim fun _ => through_eq_ok

/-! ## Constraints -/

theorem any_head?_leftParen (c : Clause) : c.head?.any (·.token == .leftParen) = c.startsGroup := by
  cases c with
  | nil => rfl
  | cons l rest => rfl

theorem any_head?_isKeyword (k : Keyword) (c : Clause) :
    c.head?.any (·.isKeyword k) = c.startsWith k := by
  cases c with
  | nil => rfl
  | cons l rest => rfl

theorem reads_toGroup : Reads lexemes (toGroup lexemes) c () (TableConstraint.toGroup c) := by
  refine (reads_sees _).bind ?_
  rw [any_head?_leftParen, TableConstraint.toGroup]
  cases c.startsGroup with
  | false => exact reads_next.discard
  | true => exact Reads.pure ()

theorem exists_reads_ignores (lexemes : Clause) (l : Lexeme) (rest : Clause) :
    ∃ after, Reads lexemes (ignores lexemes l) rest (TableConstraint.isIgnored (l :: rest))
      after := by
  rw [ignores]
  split
  case h_9 =>
    have hignored : TableConstraint.isIgnored (l :: rest) = false := by
      rw [TableConstraint.isIgnored]
      split
      all_goals first
        | rfl
        | contradiction
    rw [hignored]
    exact ⟨_, Reads.pure false⟩
  all_goals
    rename_i hk
    simp only [TableConstraint.isIgnored, hk]
  case h_1 => exact ⟨_, any_head?_leftParen rest ▸ reads_sees _⟩
  case h_2 => exact ⟨_, (reads_eatAny _).discard.bind (reads_remaining.bind (Reads.pure _))⟩
  case h_3 => exact ⟨_, (reads_eatAny _).discard.bind (reads_remaining.bind (Reads.pure _))⟩
  case h_4 => exact ⟨_, reads_remaining.bind (Reads.pure _)⟩
  case h_5 => exact ⟨_, reads_remaining.bind (Reads.pure _)⟩
  case h_6 =>
    have hsees : rest.head?.any (fun l => l.isKeyword .usingWord || l.token == .leftParen) =
        (rest.startsWith .usingWord || rest.startsGroup) := by
      cases rest with
      | nil => rfl
      | cons l rest => rfl
    exact ⟨_, hsees ▸ reads_sees _⟩
  case h_7 =>
    cases hname : rest.tableName? with
    | none =>
        have hreads : Reads lexemes _ rest _ _ := reads_tableName
        rw [hname] at hreads
        exact ⟨_, hreads.bind (Reads.pure false)⟩
    | some target =>
        obtain ⟨table, after⟩ := target
        have hreads : Reads lexemes _ rest _ _ := reads_tableName
        rw [hname] at hreads
        refine ⟨after, hreads.bind (Reads.get.bind fun hafter => ?_)⟩
        rw [getElem?_place_zero hafter]
        cases after with
        | nil => exact Reads.pure true hafter
        | cons m after => exact Reads.pure (m.isAny [.including, .excluding]) hafter
  case h_8 => exact ⟨_, any_head?_isKeyword .forWord rest ▸ reads_sees _⟩

theorem exists_reads_isIgnored (lexemes c : Clause) :
    ∃ rest, Reads lexemes (isIgnored lexemes) c (TableConstraint.isIgnored c) rest := by
  cases c with
  | nil => exact ⟨_, reads_next.bind (Reads.pure false)⟩
  | cons l rest =>
      obtain ⟨after, hafter⟩ := exists_reads_ignores lexemes l rest
      exact ⟨after, reads_next.bind hafter⟩

theorem exists_reads_foreignTarget (lexemes c : Clause) :
    ∃ rest, Reads lexemes (foreignTarget lexemes) c (TableConstraint.foreignTarget c) rest := by
  rw [TableConstraint.foreignTarget]
  cases hafter : c.after? [.references] with
  | none => exact ⟨_, ((reads_eatKeyword .references).of_none hafter).bind (Reads.pure _)⟩
  | some rest =>
      have hname : Reads lexemes _ rest _ _ := reads_tableName
      have hwords : Reads lexemes _ _ true _ := (reads_eatKeyword .references).of_some hafter
      dsimp only
      cases htable : rest.tableName? with
      | none =>
          rw [htable] at hname
          exact ⟨_, hwords.bind (hname.bind (reads_columnGroup.bind (Reads.pure _)))⟩
      | some target =>
          rw [htable] at hname
          exact ⟨_, hwords.bind (hname.bind (reads_columnGroup.bind (Reads.pure _)))⟩

/-- The three constraints that matter; what is none of them is left as it is. -/
theorem exists_reads_constraintBody (lexemes c : Clause) :
    ∃ rest, Reads lexemes (constraintBody lexemes) c (TableConstraint.body? c) rest ∧
      (TableConstraint.body? c = none → rest = c) := by
  rw [constraintBody, TableConstraint.body?]
  cases hprimary : c.after? [.primary, .key] with
  | some rest =>
      have hwords : Reads lexemes _ _ true _ :=
        (reads_eatKeywords [.primary, .key]).of_some hprimary
      exact ⟨_, hwords.bind (reads_columnGroup.bind (Reads.pure _)),
        fun h => absurd h (Option.some_ne_none _)⟩
  | none =>
      have hnot : Reads lexemes _ _ false _ := (reads_eatKeywords [.primary, .key]).of_none hprimary
      cases hforeign : c.after? [.foreign, .key] with
      | some rest =>
          have hwords : Reads lexemes _ _ true _ :=
            (reads_eatKeywords [.foreign, .key]).of_some hforeign
          obtain ⟨after, hafter⟩ := exists_reads_foreignTarget lexemes
            (TableConstraint.columnGroup (TableConstraint.toGroup rest)).2
          exact ⟨after, hnot.bind (hwords.bind (reads_toGroup.bind (reads_columnGroup.bind
            (hafter.bind (Reads.pure _))))), fun h => absurd h (Option.some_ne_none _)⟩
      | none =>
          have hnot' : Reads lexemes _ _ false _ :=
            (reads_eatKeywords [.foreign, .key]).of_none hforeign
          cases hunique : c.after? [.unique] with
          | some rest =>
              have hwords : Reads lexemes _ _ true _ := (reads_eatKeyword .unique).of_some hunique
              exact ⟨_, hnot.bind (hnot'.bind (hwords.bind ((reads_eatAny _).discard.bind
                (reads_toGroup.bind (reads_columnGroup.bind (Reads.pure _)))))),
                fun h => absurd h (Option.some_ne_none _)⟩
          | none =>
              have hnot'' : Reads lexemes _ _ false _ := (reads_eatKeyword .unique).of_none hunique
              exact ⟨_, hnot.bind (hnot'.bind (hnot''.bind (Reads.pure none))), fun _ => rfl⟩

theorem reads_afterName : Reads lexemes (afterName lexemes) c () (TableConstraint.afterName c) := by
  have hstarts : c.head?.any (·.isAny TableConstraint.kinds) =
      c.startsWithAny TableConstraint.kinds := by
    cases c with
    | nil => rfl
    | cons l rest => rfl
  refine (reads_sees _).bind ?_
  rw [hstarts, TableConstraint.afterName]
  cases c.startsWithAny TableConstraint.kinds with
  | false => exact reads_next.discard
  | true => exact Reads.pure ()

theorem exists_reads_constraint (lexemes : Clause) : ∃ rest,
    Reads lexemes (constraint lexemes) lexemes (TableConstraint.ofClause? lexemes) rest := by
  rw [constraint, TableConstraint.ofClause?]
  cases hnamed : lexemes.after? [.constraint] with
  | some rest =>
      have hword : Reads lexemes _ _ true _ := (reads_eatKeyword .constraint).of_some hnamed
      obtain ⟨after, hbody, -⟩ :=
        exists_reads_constraintBody lexemes (TableConstraint.afterName rest)
      refine ⟨after, hword.bind (reads_afterName.bind (hbody.bind ?_))⟩
      dsimp only
      cases TableConstraint.body? (TableConstraint.afterName rest) with
      | none => exact Reads.pure (some TableConstraint.ignored)
      | some constraint => exact Reads.pure (some constraint)
  | none =>
      have hword : Reads lexemes _ _ false _ := (reads_eatKeyword .constraint).of_none hnamed
      obtain ⟨after, hbody, hsame⟩ := exists_reads_constraintBody lexemes lexemes
      obtain ⟨stop, hignored⟩ := exists_reads_isIgnored lexemes lexemes
      cases hconstraint : TableConstraint.body? lexemes with
      | some constraint =>
          rw [hconstraint] at hbody
          exact ⟨after, hword.bind (hbody.bind (Reads.pure _))⟩
      | none =>
          rw [hconstraint, hsame hconstraint] at hbody
          refine ⟨stop, hword.bind (hbody.bind (hignored.bind ?_))⟩
          cases TableConstraint.isIgnored lexemes with
          | false => exact Reads.pure none
          | true => exact Reads.pure (some TableConstraint.ignored)

/-- A constraint is recognized and read without a fault, whatever the lexemes of a clause are. -/
theorem through_constraint (lexemes : Clause) :
    through constraint lexemes = .ok (TableConstraint.ofClause? lexemes) :=
  (exists_reads_constraint lexemes).elim fun _ => through_eq_ok

end Walk

end Ddl

end EntityRelation
