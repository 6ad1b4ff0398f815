import EntityRelation.Proofs.Ddl.GainedTables
import EntityRelation.Proofs.Ddl.ReferenceReading

/-!
# Spellings of a foreign key

A foreign key can be written behind the definition of its column, as the last clause of its table,
or into an alteration of the table (`Spelling`). Wherever it is written, the draft of the script
gains a key of the column to the target and is the same otherwise (`gainsKey_of_spellings`): the
texts around it are read as before, and what is read of it is the same key.
-/

namespace EntityRelation

namespace Ddl

open Clause

variable {name t c : String} {start rest front back x : Clause} {target : ForeignTarget}

/-! ## Places in a statement -/

/-- The first lexemes of a statement that creates a table, up to a place in the body of the table;
`inner` is the body up to there. -/
def OpensTable (name : String) (inner start : Clause) : Prop :=
  ∃ left, start.created? = some (name, left :: inner) ∧ left.token = .leftParen

/-- The lexemes of such a statement from a place in the body on; `inner` is the body from there. -/
def ClosesTable (inner rest : Clause) : Prop :=
  ∃ right tail, rest = inner ++ right :: tail ∧ right.token = .rightParen

theorem avoids_of_keyword? {l : Lexeme} (h : l.token.keyword? = none) (ks : List Keyword)
    (b : Clause) : Avoids ks (l :: b) := by
  intro l' hl'
  obtain rfl := Option.some.inj hl'
  refine List.any_eq_false.2 fun k _ => ?_
  rw [Lexeme.isKeyword, Lexeme.keyword?, h]
  simp

theorem avoids_of_startsEntry (h : back.StartsEntry) (ks : List Keyword) : Avoids ks back := by
  rcases h with rfl | ⟨comma, b, rfl, hcomma⟩
  · exact nofun
  · exact avoids_of_keyword? (by rw [hcomma]; rfl) ks b

theorem ClosesTable.avoids (h : ClosesTable back rest) (hback : back.StartsEntry)
    (ks : List Keyword) : Avoids ks rest := by
  obtain ⟨right, tail, rfl, hright⟩ := h
  have hend : Avoids ks (right :: tail) := avoids_of_keyword? (by rw [hright]; rfl) ks tail
  exact (avoids_of_startsEntry hback ks).append hend

theorem OpensTable.ne_nil (h : OpensTable name front start) : start ≠ [] := by
  rintro rfl
  obtain ⟨left, hcreated, -⟩ := h
  cases hcreated

/-- A balanced clause can be put in anywhere. -/
theorem isBalanced_insert (hx : isBalanced 0 x = true) (depth : Nat) (a b : Clause) :
    isBalanced depth (a ++ (x ++ b)) = isBalanced depth (a ++ b) := by
  induction a generalizing depth with
  | nil =>
      have happend := isBalanced_append depth hx b
      exact happend
  | cons l a ih =>
      rw [List.cons_append, List.cons_append, isBalanced, isBalanced]
      simp only [ih]

/-- What is put in between the parts of a statement that creates a table is put into the body. -/
theorem OpensTable.header? (hopens : OpensTable name front start) (hcloses : ClosesTable back rest)
    (hfront : front ≠ []) (hbalanced : isBalanced 0 (front ++ back) = true)
    (hx : isBalanced 0 x = true) (havoids : Avoids announcingWords (x ++ rest))
    (comments : List Lexeme) : Statement.header? ⟨start ++ (x ++ rest), comments⟩ =
      some (.ok (name, front ++ (x ++ back))) := by
  obtain ⟨left, hcreated, hleft⟩ := hopens
  obtain ⟨right, tail, rfl, hright⟩ := hcloses
  have hlength : 2 ≤ (left :: front).length := by
    have hpos := List.length_pos_iff.2 hfront
    rw [List.length_cons]
    omega
  have hread : created? (start ++ (x ++ (back ++ right :: tail))) =
      some (name, left :: (front ++ (x ++ back) ++ right :: tail)) := by
    rw [created?_append hcreated hlength havoids]
    simp
  rw [← isBalanced_insert hx] at hbalanced
  exact Statement.header?_of_created? hread hleft hbalanced (by simp [hfront]) hright

theorem line_append (hstart : start ≠ []) (rest : Clause) (comments : List Lexeme) :
    Statement.line ⟨start ++ rest, comments⟩ = Statement.line ⟨start, comments⟩ := by
  cases start with
  | nil => exact absurd rfl hstart
  | cons l start => rfl

/-! ## The spellings -/

/-- An entry that defines the column, and behind which a reference to the target may be put;
`definition` is the entry from the name of the column on. -/
structure TakesReference (c : String) (target : ForeignTarget) (ref entry definition : Clause) :
    Prop where
  column : ∃ name traits, Text.sameName name c = true ∧ IsColumnClause name traits definition ∧
    ∀ other, .reference other ∈ traits → other = target
  unconstrained : TableConstraint.ofClause? entry = none
  reference : IsModifier (.reference target) ref
  plain : ¬MimicsLike entry ref

/-- A statement, and the same statement with a foreign key of the column `c` of the table `t` to the
target written into it. -/
inductive Respells (t c : String) (target : ForeignTarget) (d : Draft) :
    Statement → Statement → Prop where
  /-- `REFERENCES` behind the clause of the table that defines the column. -/
  | inDefinition {name : String} {start front clause back rest ref : Clause}
      {comments : List Lexeme} (creates : d.Creates t ⟨start ++ rest, comments⟩)
      (opens : OpensTable name (front ++ clause) start) (closes : ClosesTable back rest)
      (balanced : isBalanced 0 (front ++ clause ++ back) = true)
      (first : front.EndsEntry) (entry : clause.IsOneEntry) (last : back.StartsEntry)
      (takes : TakesReference c target ref clause clause)
      (new : (d.columnsOf ⟨start ++ rest, comments⟩ name front.splitTopLevel).entity.fieldNamed? c =
        none) :
      Respells t c target d ⟨start ++ rest, comments⟩ ⟨start ++ (ref ++ rest), comments⟩
  /-- `REFERENCES` behind the action that adds the column to the table. -/
  | inAction {name : String} {start front entry back ref : Clause} {add : Lexeme}
      {comments : List Lexeme} (stands : (d.schema.entityNamed? t).isSome = true)
      (opens : start.altered? = some (name, front ++ add :: entry))
      (named : Text.sameName name t = true) (adds : add.keyword? = some .add)
      (first : front.EndsEntry) (action : IsOneEntry (add :: entry)) (last : back.StartsEntry)
      (takes : TakesReference c target ref entry
        ((entry.skip [.column]).skip [.ifWord, .notWord, .existsWord]))
      (new : ∀ table ∈ d.afterActions? (Statement.line ⟨start, comments⟩) name front,
        table.entity.fieldNamed? c = none) :
      Respells t c target d ⟨start ++ back, comments⟩ ⟨start ++ (ref ++ back), comments⟩
  /-- `FOREIGN KEY` as the last clause of the table. -/
  | lastClause {name column : String} {start body rest fk : Clause} {comma : Lexeme}
      {comments : List Lexeme} (creates : d.Creates t ⟨start ++ rest, comments⟩)
      (opens : OpensTable name body start) (closes : ClosesTable [] rest)
      (balanced : isBalanced 0 body = true) (nonempty : body ≠ [])
      (separates : comma.token = .comma) (key : IsForeignKey column target fk)
      (named : Text.sameName column c = true) :
      Respells t c target d ⟨start ++ rest, comments⟩ ⟨start ++ (comma :: fk ++ rest), comments⟩

/-- The statement `ALTER TABLE t ADD FOREIGN KEY (c) REFERENCES …`. An unquoted `ONLY` in front of
the name of the table would not be part of the name. -/
inductive IsKeyAlteration (t c : String) (target : ForeignTarget) : Statement → Prop where
  | intro {name column : String} {alter table add : Lexeme} {table? fk : Clause}
      {comments : List Lexeme} (halter : alter.keyword? = some .alter)
      (htable : table.keyword? = some .table) (hname : IsTableName name table?)
      (honly : table?.startsWith .only = false) (hadd : add.keyword? = some .add)
      (hkey : IsForeignKey column target fk) (hsame : Text.sameName name t = true)
      (hcolumn : Text.sameName column c = true) :
      IsKeyAlteration t c target ⟨alter :: table :: (table? ++ add :: fk), comments⟩

/-- Statements, and the same statements with a foreign key of the column `c` of the table `t` to the
target written down in one more place. -/
inductive Spelling (t c : String) (target : ForeignTarget) :
    List Statement → List Statement → Prop where
  | within {before after : List Statement} {s s' : Statement}
      (respells : Respells t c target (before.foldl Draft.add {}) s s') :
      Spelling t c target (before ++ s :: after) (before ++ s' :: after)
  | behind {before after : List Statement} {s : Statement}
      (stands : ((before.foldl Draft.add {}).schema.entityNamed? t).isSome = true)
      (alters : IsKeyAlteration t c target s) :
      Spelling t c target (before ++ after) (before ++ s :: after)

/-! ## An entry with a reference behind it -/

namespace TakesReference

variable {ref entry definition : Clause}

theorem exists_column (h : TakesReference c target ref entry definition) : ∃ column,
    Column.ofClause definition = .ok column ∧
      Column.ofClause (definition ++ ref) = .ok { column with reference := some target } ∧
      (∀ other ∈ column.reference, other = target) ∧ Text.sameName column.name c = true := by
  obtain ⟨name, traits, hname, hclause, hother⟩ := h.column
  obtain ⟨dataType, hread, hread'⟩ := hclause.ofClause_append h.reference
  refine ⟨_, hread, hread', fun other hreference => hother other ?_, hname⟩
  obtain ⟨trait, htrait, hsome⟩ := List.mem_filterMap.1 (List.mem_of_mem_getLast? hreference)
  cases trait with
  | reference target =>
      obtain rfl := Option.some.inj hsome
      exact htrait
  | _ => cases hsome

theorem two_le_length (h : TakesReference c target ref entry definition) :
    2 ≤ definition.length := by
  obtain ⟨name, traits, -, hclause, -⟩ := h.column
  exact hclause.two_le_length

/-- With the reference behind it, the entry is a column definition as before. -/
theorem ofClause?_append (h : TakesReference c target ref entry definition)
    (hsuffix : definition <:+ entry) (hbalanced : entry.isBalanced 0 = true) :
    TableConstraint.ofClause? (entry ++ ref) = none :=
  TableConstraint.ofClause?_append_reference (h.two_le_length.trans hsuffix.length_le) hbalanced
    h.reference h.plain h.unconstrained

theorem gains_addColumn (h : TakesReference c target ref entry definition) {d : TableDraft}
    (index line : Nat) (hnew : d.entity.fieldNamed? c = none) :
    (d.addColumn index line definition).Gains (PendingKey.isTo d.entity.id c target)
      (d.addColumn index line (definition ++ ref)) := by
  obtain ⟨column, hread, hread', hother, hname⟩ := h.exists_column
  exact d.gains_addColumn hread hread' hother hname
    ((d.entity.fieldNamed?_congr hname).trans hnew)

/-- An action that adds a column, with the reference behind it. -/
theorem gains_addAction {add : Lexeme} (h : TakesReference c target ref entry
      ((entry.skip [.column]).skip [.ifWord, .notWord, .existsWord]))
    (hadd : add.keyword? = some .add) (hentry : IsOneEntry (add :: entry)) {d : TableDraft}
    (index line : Nat) (hnew : d.entity.fieldNamed? c = none) :
    (d.addAction index line (add :: entry)).Gains (PendingKey.isTo d.entity.id c target)
      (d.addAction index line (add :: entry ++ ref)) := by
  have hbalanced : entry.isBalanced 0 = true := by
    have hall := hentry.balanced
    rwa [TableConstraint.isBalanced_cons_of_keyword? hadd] at hall
  have hsuffix : (entry.skip [.column]).skip [.ifWord, .notWord, .existsWord] <:+ entry :=
    (skip_suffix _ _).trans (skip_suffix _ _)
  have havoids : ∀ ks, .references ∉ ks → Avoids ks ref :=
    fun ks hks => h.reference.avoids_reference hks
  have hgains := h.gains_addColumn index line hnew
  rw [← skip_append (havoids _ (by decide)), ← skip_append (havoids _ (by decide))] at hgains
  rw [List.cons_append, TableDraft.addAction, TableDraft.addAction, after?_cons hadd,
    after?_cons hadd, after?, after?]
  dsimp only
  rw [h.unconstrained, h.ofClause?_append hsuffix hbalanced]
  exact hgains

end TakesReference

/-! ## Definitions -/

namespace Draft

variable {d : Draft} {s : Statement} {clause ref fk body : Clause} {comma : Lexeme}
  {comments : List Lexeme}

/-- What is put into the body of a table adds a key to the draft, if it adds one to the table. -/
theorem gainsKey_of_insertion (hcreates : d.Creates t ⟨start ++ rest, comments⟩)
    (hopens : OpensTable name front start) (hcloses : ClosesTable back rest)
    (hfront : front ≠ []) (hback : back.StartsEntry)
    (hbalanced : isBalanced 0 (front ++ back) = true) (hx : isBalanced 0 x = true)
    (havoids : Avoids announcingWords x)
    (hcolumns : (d.columnsOf ⟨start ++ rest, comments⟩ name
        (splitTopLevel (front ++ (x ++ back)))).entity =
      (d.columnsOf ⟨start ++ rest, comments⟩ name (splitTopLevel (front ++ back))).entity)
    (htable : (d.tableOf ⟨start ++ rest, comments⟩ name (splitTopLevel (front ++ back))).Gains
      (PendingKey.isTo (entityIdAt d.entities.length) c target)
      (d.tableOf ⟨start ++ rest, comments⟩ name (splitTopLevel (front ++ (x ++ back))))) :
    (d.add ⟨start ++ rest, comments⟩).GainsKey t c target
      (d.add ⟨start ++ (x ++ rest), comments⟩) := by
  have hrest := hcloses.avoids hback announcingWords
  have hs : Statement.header? ⟨start ++ rest, comments⟩ = some (.ok (name, front ++ back)) :=
    hopens.header? (x := []) hcloses hfront hbalanced rfl hrest comments
  have hs' := hopens.header? hcloses hfront hbalanced hx (havoids.append hrest) comments
  have hline : Statement.line ⟨start ++ (x ++ rest), comments⟩ =
      Statement.line ⟨start ++ rest, comments⟩ :=
    (line_append hopens.ne_nil _ _).trans (line_append hopens.ne_nil _ _).symm
  exact gainsKey_of_header? hcreates hs hs' hline rfl hcolumns htable

theorem gains_of_takesReference (hclause : clause.IsOneEntry)
    (htakes : TakesReference c target ref clause clause) {clauses : List Clause}
    (hnew : (d.columnsOf s name clauses).entity.fieldNamed? c = none) (clauses' : List Clause) :
    (d.columnsOf s name (clauses ++ clause :: clauses')).Gains
      (PendingKey.isTo (entityIdAt d.entities.length) c target)
      (d.columnsOf s name (clauses ++ (clause ++ ref) :: clauses')) := by
  have hunconstrained := htakes.ofClause?_append (List.suffix_refl _) hclause.balanced
  have hgains := htakes.gains_addColumn d.entities.length s.line hnew
  rw [id_columnsOf] at hgains
  rw [columnsOf, columnsOf, TableDraft.addColumns_insert htakes.unconstrained,
    TableDraft.addColumns_insert hunconstrained]
  exact hgains.addColumns _ _ _

theorem gainsKey_inDefinition (hcreates : d.Creates t ⟨start ++ rest, comments⟩)
    (hopens : OpensTable name (front ++ clause) start) (hcloses : ClosesTable back rest)
    (hbalanced : isBalanced 0 (front ++ clause ++ back) = true) (hfront : front.EndsEntry)
    (hclause : clause.IsOneEntry) (hback : back.StartsEntry)
    (htakes : TakesReference c target ref clause clause)
    (hnew : (d.columnsOf ⟨start ++ rest, comments⟩ name front.splitTopLevel).entity.fieldNamed? c =
      none) :
    (d.add ⟨start ++ rest, comments⟩).GainsKey t c target
      (d.add ⟨start ++ (ref ++ rest), comments⟩) := by
  have href := htakes.reference.isContained_reference
  have hsplit : splitTopLevel (front ++ clause ++ back) =
      front.splitTopLevel ++ clause :: back.splitTopLevel := by
    rw [List.append_assoc, splitTopLevel_insert hfront hclause hback]
  have hsplit' : splitTopLevel (front ++ clause ++ (ref ++ back)) =
      front.splitTopLevel ++ (clause ++ ref) :: back.splitTopLevel := by
    rw [← splitTopLevel_insert hfront (hclause.append href) hback]
    simp
  have hcolumns := gains_of_takesReference hclause htakes hnew back.splitTopLevel
  refine gainsKey_of_insertion hcreates hopens hcloses (by simp [hclause.ne_nil]) hback hbalanced
    href.balanced (htakes.reference.avoids_reference (by decide)) ?_ ?_
  · rw [hsplit, hsplit', hcolumns.entity]
  · have hunconstrained := htakes.ofClause?_append (List.suffix_refl _) hclause.balanced
    rw [hsplit, hsplit', tableOf, tableOf,
      TableDraft.applyConstraints_insert htakes.unconstrained,
      TableDraft.applyConstraints_insert hunconstrained]
    exact hcolumns.applyConstraints _ _

theorem gainsKey_lastClause {column : String} (hcreates : d.Creates t ⟨start ++ rest, comments⟩)
    (hopens : OpensTable name body start) (hcloses : ClosesTable [] rest)
    (hbalanced : isBalanced 0 body = true) (hne : body ≠ []) (hcomma : comma.token = .comma)
    (hkey : IsForeignKey column target fk) (hname : Text.sameName column c = true) :
    (d.add ⟨start ++ rest, comments⟩).GainsKey t c target
      (d.add ⟨start ++ (comma :: fk ++ rest), comments⟩) := by
  have hcontained : isBalanced 0 (comma :: fk) = true := by
    rw [isBalanced, if_neg (by simp [hcomma]), if_neg (by simp [hcomma])]
    exact hkey.isContained.balanced
  have hclause : IsOneEntry fk :=
    ⟨hkey.ne_nil, hkey.isContained.balanced, hkey.isContained.noComma⟩
  have hsplit : splitTopLevel (body ++ (comma :: fk ++ [])) = splitTopLevel body ++ [fk] := by
    have hlast := splitTopLevel_of_isOneEntry hclause (.inl rfl)
    rw [List.cons_append, splitTopLevel_comma_append (openGroups_of_isBalanced hbalanced) hcomma,
      hlast]
    rfl
  refine gainsKey_of_insertion hcreates hopens hcloses hne (.inl rfl)
    (by rwa [List.append_nil]) hcontained (avoids_of_keyword? (by rw [hcomma]; rfl) _ _) ?_ ?_
  · rw [hsplit, List.append_nil, columnsOf, columnsOf,
      TableDraft.addColumns_concat hkey.ofClause?_eq]
  · rw [hsplit, List.append_nil, ← (d.name_tableOf _ name (splitTopLevel body)).2]
    rw [tableOf, tableOf, columnsOf, columnsOf, TableDraft.addColumns_concat hkey.ofClause?_eq,
      TableDraft.applyConstraints_concat hkey.ofClause?_eq]
    exact TableDraft.gains_applyConstraint _ _ hname

/-! ## Alterations -/

theorem gainsKey_inAction {entry : Clause} {add : Lexeme}
    (hstands : (d.schema.entityNamed? t).isSome = true)
    (hopens : start.altered? = some (name, front ++ add :: entry))
    (hname : Text.sameName name t = true) (hadd : add.keyword? = some .add)
    (hfront : front.EndsEntry) (hentry : IsOneEntry (add :: entry)) (hback : back.StartsEntry)
    (htakes : TakesReference c target ref entry
      ((entry.skip [.column]).skip [.ifWord, .notWord, .existsWord]))
    (hnew : ∀ table ∈ d.afterActions? (Statement.line ⟨start, comments⟩) name front,
      table.entity.fieldNamed? c = none) :
    (d.add ⟨start ++ back, comments⟩).GainsKey t c target
      (d.add ⟨start ++ (ref ++ back), comments⟩) := by
  obtain ⟨index, entity, hindex, hentity, hid⟩ := exists_index hname hstands
  have hlength : 2 ≤ (front ++ add :: entry).length := by
    have hsuffix : (entry.skip [.column]).skip [.ifWord, .notWord, .existsWord] <:+ entry :=
      (skip_suffix _ _).trans (skip_suffix _ _)
    have hlong := htakes.two_le_length.trans hsuffix.length_le
    rw [List.length_append, List.length_cons]
    omega
  have hstart : start ≠ [] := by
    rintro rfl
    cases hopens
  have hs : Clause.altered? (start ++ back) = some (name, front ++ (add :: entry ++ back)) := by
    rw [altered?_append hopens hlength (avoids_of_startsEntry hback _), List.append_assoc]
  have hs' : Clause.altered? (start ++ (ref ++ back)) =
      some (name, front ++ (add :: entry ++ ref ++ back)) := by
    have havoids : Avoids announcingWords ref := htakes.reference.avoids_reference (by decide)
    rw [altered?_append hopens hlength (havoids.append (avoids_of_startsEntry hback _))]
    simp
  have hnamed := idNamed?_foldl_add hid [⟨start ++ back, comments⟩]
  rw [List.foldl_cons, List.foldl_nil] at hnamed
  rw [add_of_altered? hs hindex hentity] at hnamed ⊢
  rw [add_of_altered? hs' hindex hentity]
  refine gainsKey_of_tables hnamed ?_
  rw [splitTopLevel_insert hfront hentry hback, splitTopLevel_insert hfront
    (hentry.append htakes.reference.isContained_reference) hback, List.foldl_append,
    List.foldl_append, List.foldl_cons, List.foldl_cons, line_append hstart, line_append hstart]
  refine TableDraft.Gains.addActions ?_ _ _ _
  have hextends : TableDraft.Extends index (fun _ => True) { entity }
      (front.splitTopLevel.foldl (TableDraft.addAction index (Statement.line ⟨start, comments⟩))
        { entity }) := TableDraft.extends_addActions (fun _ _ _ _ _ _ => trivial) _
  have hafter : d.afterActions? (Statement.line ⟨start, comments⟩) name front =
      some (front.splitTopLevel.foldl (TableDraft.addAction index
        (Statement.line ⟨start, comments⟩)) { entity }) := by
    simp only [afterActions?, hindex, hentity, bind, Option.bind_some]
    rfl
  have hcolumn := hnew _ hafter
  have hgains := htakes.gains_addAction hadd hentry index (Statement.line ⟨start, comments⟩) hcolumn
  rwa [hextends.id_eq] at hgains

end Draft

theorem skip_eq_self {ks : List Keyword} {a : Clause} (h : after? ks a = none) : skip ks a = a := by
  rw [skip, h, Option.getD_none]

/-- A qualified name is no word that may stand in front of it. -/
theorem IsTableName.after?_exists {named : Clause} (h : IsTableName name named) {add : Lexeme}
    (hadd : add.keyword? = some .add) (fk : Clause) :
    after? [.ifWord, .existsWord] (named ++ add :: fk) = none := by
  cases h with
  | @last l _ hl =>
      rw [List.singleton_append, after?]
      split
      · exact after?_cons_ne (by rw [hadd]; decide)
      · rfl
  | @qualified l point _ named hl hpoint hnamed =>
      rw [List.cons_append, List.cons_append, after?]
      split
      · exact after?_cons_ne (by rw [Lexeme.keyword?, hpoint]; decide)
      · rfl

theorem IsKeyAlteration.altered? {s : Statement} (h : IsKeyAlteration t c target s) :
    ∃ name column add fk, s.lexemes.altered? = some (name, add :: fk) ∧
      add.keyword? = some .add ∧ IsForeignKey column target fk ∧ Text.sameName name t = true ∧
      Text.sameName column c = true := by
  cases h with
  | @intro name column alter table add named fk comments halter htable hname honly hadd hkey hsame
      hcolumn =>
      refine ⟨name, column, add, fk, ?_, hadd, hkey, hsame, hcolumn⟩
      have honly : after? [.only] (named ++ add :: fk) = none := by
        obtain ⟨l, more, rfl, -⟩ := hname.exists_cons
        rw [List.cons_append, after?]
        exact if_neg (Bool.eq_false_iff.1 honly)
      have hperiod : NoPeriod (add :: fk) := by
        obtain ⟨value, hvalue⟩ := isWord_of_keyword? hadd
        exact noPeriod_cons (by simp [hvalue])
      have hafter : after? [.alter, .table] (alter :: table :: (named ++ add :: fk)) =
          some (named ++ add :: fk) := by
        rw [after?_cons halter, after?_cons htable, after?]
      simp only [Clause.altered?, bind, hafter, Option.bind_some, skip_eq_self honly,
        skip_eq_self (hname.after?_exists hadd fk)]
      exact hname.tableName?_append hperiod

theorem Draft.gainsKey_of_alteration {d : Draft} {s : Statement}
    (hstands : (d.schema.entityNamed? t).isSome = true) (h : IsKeyAlteration t c target s) :
    d.GainsKey t c target (d.add s) := by
  obtain ⟨name, column, add, fk, haltered, hadd, hkey, hname, hcolumn⟩ := h.altered?
  obtain ⟨index, entity, hindex, hentity, hid⟩ := exists_index hname hstands
  have hclause : IsOneEntry (add :: fk) := by
    have hcontained := hkey.isContained.cons (isInner_of_keyword? hadd)
    exact ⟨List.cons_ne_nil _ _, hcontained.balanced, hcontained.noComma⟩
  have hsplit : splitTopLevel (add :: fk) = [add :: fk] := by
    have hall := splitTopLevel_of_isOneEntry hclause (.inl rfl)
    rwa [List.append_nil] at hall
  have haction : TableDraft.addAction index s.line { entity } (add :: fk) =
      TableDraft.applyConstraint s.line { entity }
        (.foreignKey [column] (some target.table) target.column.toList) := by
    rw [TableDraft.addAction, after?_cons hadd, after?]
    dsimp only
    rw [hkey.ofClause?_eq]
  have hgains : TableDraft.Gains (PendingKey.isTo entity.id c target) { entity } _ :=
    TableDraft.gains_applyConstraint { entity } s.line hcolumn
  refine ⟨entity.id, hid, ?_⟩
  rw [add_of_altered? haltered hindex hentity, hsplit, List.foldl_cons, List.foldl_nil, haction]
  obtain ⟨hlt, hsame⟩ := List.getElem?_eq_some_iff.1 hentity
  refine ⟨?_, ?_⟩
  · dsimp only
    rw [hgains.entity, ← hsame, List.set_getElem_self]
  · have hkeys := hgains.keys.append_left d.pendingKeys
    rwa [List.append_nil] at hkeys

/-! ## Scripts -/

theorem Respells.gainsKey {d : Draft} {s s' : Statement} (h : Respells t c target d s s') :
    (d.add s).GainsKey t c target (d.add s') := by
  cases h with
  | inDefinition creates opens closes balanced first entry last takes new =>
      exact Draft.gainsKey_inDefinition creates opens closes balanced first entry last takes new
  | inAction stands opens named adds first action last takes new =>
      exact Draft.gainsKey_inAction stands opens named adds first action last takes new
  | lastClause creates opens closes balanced nonempty separates key named =>
      exact Draft.gainsKey_lastClause creates opens closes balanced nonempty separates key named

/-- Wherever a foreign key is written down, the script gains a key of the column to the target. -/
theorem Spelling.gainsKey {ss ss' : List Statement} (h : Spelling t c target ss ss') :
    (ss.foldl Draft.add {}).GainsKey t c target (ss'.foldl Draft.add {}) := by
  cases h with
  | within respells =>
      rw [List.foldl_append, List.foldl_append, List.foldl_cons, List.foldl_cons]
      exact respells.gainsKey.foldl_add _
  | behind stands alters =>
      rw [List.foldl_append, List.foldl_append, List.foldl_cons]
      exact (Draft.gainsKey_of_alteration stands alters).foldl_add _

/-- However often it is written down. -/
theorem gainsKey_of_spellings {ss ss' : List Statement}
    (h : Relation.TransGen (Spelling t c target) ss ss') :
    (ss.foldl Draft.add {}).GainsKey t c target (ss'.foldl Draft.add {}) := by
  induction h with
  | single h => exact h.gainsKey
  | tail _ h ih => exact ih.trans h.gainsKey

end Ddl

end EntityRelation
