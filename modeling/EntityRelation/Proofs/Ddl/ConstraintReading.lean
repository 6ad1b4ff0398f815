import EntityRelation.Proofs.Ddl.Names
import EntityRelation.Proofs.Ddl.Parts
import EntityRelation.Script.Render

/-!
# Constraints read back

The clauses that a script writes for a primary key of several columns and for a foreign key are
read as these constraints, whatever their tables and columns are called.
-/

namespace EntityRelation

namespace Ddl

open Lexer

namespace Clause

variable {l : Lexeme} {rest : Clause} {k : Keyword} {ks : List Keyword}

theorem after?_cons (h : l.keyword? = some k) : after? (k :: ks) (l :: rest) = after? ks rest := by
  rw [after?, if_pos]
  rw [Lexeme.isKeyword, h, beq_self_eq_true]

theorem after?_cons_ne (h : l.keyword? ≠ some k) : after? (k :: ks) (l :: rest) = none := by
  rw [after?, if_neg]
  rw [Lexeme.isKeyword, beq_iff_eq]
  exact h

theorem keyword?_of_word {word : String} (h : l.token = .word word) :
    l.keyword? = Keyword.ofWord? word := by
  rw [Lexeme.keyword?, h]
  rfl

end Clause

/-- A group of names between parentheses. -/
def IsNameGroup (names : List String) (c : Clause) : Prop :=
  ∃ (left : Lexeme) (inner : Clause) (right : Lexeme), c = left :: inner ++ [right] ∧
    left.token = .leftParen ∧ right.token = .rightParen ∧ inner.IsInside ∧
    inner.columnNames = names

namespace IsNameGroup

variable {names : List String} {c : Clause}

theorem isContained (h : IsNameGroup names c) : c.IsContained := by
  obtain ⟨left, inner, right, rfl, hleft, hright, hinner, -⟩ := h
  exact hinner.group hleft hright

theorem startsGroup (h : IsNameGroup names c) (rest : Clause) :
    Clause.startsGroup (c ++ rest) = true := by
  obtain ⟨left, inner, right, rfl, hleft, -⟩ := h
  simp [Clause.startsGroup, hleft]

theorem columnGroup (h : IsNameGroup names c) (rest : Clause) :
    TableConstraint.columnGroup (c ++ rest) = (names, rest) := by
  obtain ⟨left, inner, right, rfl, hleft, hright, hinner, hnames⟩ := h
  rw [TableConstraint.columnGroup, Clause.group?_delimited hleft hright hinner.balanced rest]
  simp only [hnames]

/-- A group is no part of the name of a table in front of it. -/
theorem qualifiedFrom (h : IsNameGroup names c) (name : String) (rest : Clause) :
    Clause.qualifiedFrom name (c ++ rest) = (name, c ++ rest) := by
  obtain ⟨left, inner, right, rfl, hleft, -⟩ := h
  cases inner with
  | nil => simp [Clause.qualifiedFrom, hleft]
  | cons l inner => simp [Clause.qualifiedFrom, hleft]

end IsNameGroup

theorem isInner_nameToken (name : String) : Clause.isInner (nameToken name) = true := by
  rw [nameToken]
  split
  · rfl
  · rfl

theorem isContained_of_nameToken {name : String} {c : Clause} (h : Tokens [nameToken name] c) :
    c.IsContained ∧ c ≠ [] := by
  obtain ⟨l, rfl, hl⟩ := List.map_eq_singleton_iff.1 h
  refine ⟨Clause.IsContained.nil.cons ?_, List.cons_ne_nil _ _⟩
  rw [hl]
  exact isInner_nameToken name

theorem filterMap_name? {names : List String} {parts : List Clause}
    (h : List.Forall₂ (fun name => Tokens [nameToken name]) names parts) :
    (parts.filterMap fun entry => entry.head?.bind Lexeme.name?) = names := by
  induction h with
  | nil => rfl
  | cons hfirst hrest ih =>
      obtain ⟨l, rfl, hl⟩ := List.map_eq_singleton_iff.1 hfirst
      have hname : l.name? = some _ := (congrArg Token.name? hl).trans (name?_nameToken _)
      rw [List.filterMap_cons, List.head?_cons, Option.bind_some, hname, ih]

/-- A list of names is read back. -/
theorem reads_nameList (d : Dialect) {names : List String} (hne : names ≠ []) :
    Reads Anything (Script.nameList d names).toList (IsNameGroup names) := by
  have hgap : ' ' = ' ' ∨ ' ' = '\n' := Or.inl rfl
  have hnames := reads_intercalate hgap hne fun name _ => reads_quote d name
  have hopen := Reads.leftParen.append hnames fun _ _ => trivial
  have hclose := hopen.append Reads.rightParen fun tail _ => stops_cons (by decide) tail
  have htext : (Script.nameList d names).toList =
      ['('] ++ (String.intercalate (String.ofList [',', ' ']) (names.map d.quote)).toList ++
        [')'] := by
    rw [Script.nameList, String.toList_append, String.toList_append]
    rfl
  rw [htext]
  refine hclose.mono ?_
  rintro ls ⟨front, back, rfl, ⟨left, inner, rfl, hleft, parts, hjoined, hparts⟩, hright⟩
  obtain ⟨l, rfl, hl⟩ := List.map_eq_singleton_iff.1 hleft
  obtain ⟨r, rfl, hr⟩ := List.map_eq_singleton_iff.1 hright
  have hcontained : ∀ p ∈ parts, p.IsContained ∧ p ≠ [] := by
    intro p hp
    obtain ⟨name, -, hname⟩ := exists_of_forall₂ hparts hp
    exact isContained_of_nameToken hname
  refine ⟨l, inner, r, rfl, hl, hr, hjoined.isInside fun p hp => (hcontained p hp).1, ?_⟩
  rw [Clause.columnNames, hjoined.splitTopLevel_eq hcontained]
  exact filterMap_name? hparts

/-! ## The clauses of a table besides its columns -/

/-- A clause that states a constraint. -/
structure States (constraint : TableConstraint) (c : Clause) : Prop where
  contained : c.IsContained
  ne_nil : c ≠ []
  ofClause?_eq : TableConstraint.ofClause? c = some constraint

theorem isContained_of_words {words : List String} {c : Clause}
    (h : Tokens (words.map .word) c) : c.IsContained := by
  induction words generalizing c with
  | nil =>
      obtain rfl := List.map_eq_nil_iff.1 h
      exact Clause.IsContained.nil
  | cons word words ih =>
      obtain ⟨l, c, rfl, hl, hc⟩ := List.map_eq_cons_iff.1 h
      refine (ih hc).cons ?_
      rw [hl]
      rfl

theorem eq_pair_of_tokens {c : Clause} {t u : Token} (h : Tokens [t, u] c) :
    ∃ l m, c = [l, m] ∧ l.token = t ∧ m.token = u := by
  obtain ⟨l, c, rfl, hl, hc⟩ := List.map_eq_cons_iff.1 h
  obtain ⟨m, rfl, hm⟩ := List.map_eq_singleton_iff.1 hc
  exact ⟨l, m, rfl, hl, hm⟩

theorem stops_nameList (d : Dialect) (names : List String) (tail : List Char) :
    Stops ((Script.nameList d names).toList ++ tail) := by
  rw [Script.nameList, String.toList_append, String.toList_append]
  exact stops_cons (by decide) _

/-- The clause of a primary key is read back. -/
theorem reads_renderCompositeKey (d : Dialect) {names : List String} (hne : names ≠ []) :
    Reads Anything (Script.renderCompositeKey d names).toList (States (.primaryKey names)) := by
  have hwords := Reads.words ["PRIMARY", "KEY"] (by decide)
  have hclause := (hwords.append ((reads_nameList d hne).after_gap (c := ' ') (Or.inl rfl))
    fun tail _ => stops_cons (by decide) _).after_gap (c := ' ') (Or.inl rfl)
  have htext : (Script.renderCompositeKey d names).toList =
      ' ' :: ((["PRIMARY", "KEY"].flatMap fun word => ' ' :: word.toList) ++
        ' ' :: (Script.nameList d names).toList) := by
    rw [Script.renderCompositeKey, String.toList_append]
    rfl
  rw [htext]
  refine hclause.mono ?_
  rintro ls ⟨front, group, rfl, hfront, hgroup⟩
  have hcontained := (isContained_of_words hfront).append hgroup.isContained
  obtain ⟨p, k, rfl, hp, hk⟩ := eq_pair_of_tokens hfront
  have hp : p.keyword? = some .primary := (Clause.keyword?_of_word hp).trans (by decide)
  have hk : k.keyword? = some .key := (Clause.keyword?_of_word hk).trans (by decide)
  refine ⟨hcontained, List.cons_ne_nil _ _, ?_⟩
  have hcolumns := hgroup.columnGroup []
  rw [List.append_nil] at hcolumns
  have hbody : TableConstraint.body? ([p, k] ++ group) = some (.primaryKey names) := by
    rw [TableConstraint.body?, List.cons_append, Clause.after?_cons hp, List.singleton_append,
      Clause.after?_cons hk, Clause.after?]
    simp only [hcolumns]
  rw [TableConstraint.ofClause?, hbody, List.cons_append, Clause.after?_cons_ne (by simp [hp])]
  rfl

/-- What a dialect appends to a foreign key, as words. -/
def foreignKeyWords (d : Dialect) : List String :=
  if d.profile.foreignKeySuffix.isSome then ["ON", "DELETE", "CASCADE"] else []

theorem isPlain_foreignKeyWords (d : Dialect) :
    ∀ word ∈ foreignKeyWords d, Dialect.isPlain word = true := by
  cases d with
  | mySql | postgreSql | sqlite | sqlServer => decide

theorem toList_foreignKeySuffix (d : Dialect) :
    (Script.spaced d.profile.foreignKeySuffix).toList =
      (foreignKeyWords d).flatMap fun word => ' ' :: word.toList := by
  cases d with
  | mySql | postgreSql | sqlite | sqlServer => decide

theorem toList_renderForeignKey (d : Dialect) (k : ForeignKeyDefinition) :
    (Script.renderForeignKey d k).toList =
      ' ' :: (((["FOREIGN", "KEY"].flatMap fun word => ' ' :: word.toList) ++
        ' ' :: (Script.nameList d [k.column]).toList) ++
        (((["REFERENCES"].flatMap fun word => ' ' :: word.toList) ++
          ' ' :: (d.quote k.table).toList) ++
          ((Script.nameList d [k.referenced]).toList ++
            (foreignKeyWords d).flatMap fun word => ' ' :: word.toList))) := by
  have hforeign : "  FOREIGN KEY ".toList =
      ' ' :: ((["FOREIGN", "KEY"].flatMap fun word => ' ' :: word.toList) ++ [' ']) := by decide
  have hreferences : " REFERENCES ".toList =
      (["REFERENCES"].flatMap fun word => ' ' :: word.toList) ++ [' '] := by decide
  unfold Script.renderForeignKey
  simp only [String.toList_append, toList_foreignKeySuffix, hforeign, hreferences,
    List.cons_append, List.append_assoc, List.nil_append]

/-- The clause of a foreign key is read back. -/
theorem reads_renderForeignKey (d : Dialect) (k : ForeignKeyDefinition) :
    Reads Stops (Script.renderForeignKey d k).toList
      (States (.foreignKey [k.column] (some k.table) [k.referenced])) := by
  have hcolumns := (reads_nameList d (List.cons_ne_nil k.column [])).after_gap (c := ' ')
    (Or.inl rfl)
  have hfront := (Reads.words ["FOREIGN", "KEY"] (by decide)).append hcolumns
    fun tail _ => stops_cons (by decide) _
  have htable := (reads_quote d k.table).after_gap (c := ' ') (Or.inl rfl)
  have htarget := (Reads.words ["REFERENCES"] (by decide)).append htable
    fun tail _ => stops_cons (by decide) _
  have hreferenced := (reads_nameList d (List.cons_ne_nil k.referenced [])).append
    (Reads.words (foreignKeyWords d) (isPlain_foreignKeyWords d)) fun _ _ => trivial
  have hback := htarget.append hreferenced fun tail _ => by
    rw [List.append_assoc]
    exact stops_nameList d _ _
  have hclause := (hfront.append hback fun _ _ => trivial).after_gap (c := ' ') (Or.inl rfl)
  rw [toList_renderForeignKey]
  refine hclause.mono ?_
  rintro ls ⟨_, _, rfl, ⟨words, columns, rfl, hwords, hcolumns⟩, _, _, rfl,
    ⟨references, table, rfl, hreferences, htable⟩, referenced, suffix, rfl, hreferenced, hsuffix⟩
  have hcontained := ((isContained_of_words hwords).append hcolumns.isContained).append
    (((isContained_of_words hreferences).append (isContained_of_nameToken htable).1).append
      (hreferenced.isContained.append (isContained_of_words hsuffix)))
  obtain ⟨f, key, rfl, hf, hkey⟩ := eq_pair_of_tokens hwords
  obtain ⟨r, rfl, hr⟩ := List.map_eq_singleton_iff.1 hreferences
  obtain ⟨t, rfl, ht⟩ := List.map_eq_singleton_iff.1 htable
  have hf : f.keyword? = some .foreign := (Clause.keyword?_of_word hf).trans (by decide)
  have hkey : key.keyword? = some .key := (Clause.keyword?_of_word hkey).trans (by decide)
  have hr : r.keyword? = some .references := (Clause.keyword?_of_word hr).trans (by decide)
  have ht : t.name? = some k.table := (congrArg Token.name? ht).trans (name?_nameToken _)
  refine ⟨hcontained, List.cons_ne_nil _ _, ?_⟩
  have hto : TableConstraint.foreignTarget (r :: t :: (referenced ++ suffix)) =
      (some k.table, [k.referenced]) := by
    rw [TableConstraint.foreignTarget, Clause.after?_cons hr, Clause.after?]
    simp only [Clause.tableName?, ht, Option.map_some, hreferenced.qualifiedFrom,
      hreferenced.columnGroup]
  have hbody : TableConstraint.body? (f :: key :: (columns ++ r :: t :: (referenced ++ suffix))) =
      some (.foreignKey [k.column] (some k.table) [k.referenced]) := by
    rw [TableConstraint.body?, Clause.after?_cons_ne (by simp [hf]), Clause.after?_cons hf,
      Clause.after?_cons hkey, Clause.after?]
    simp only [TableConstraint.toGroup, hcolumns.startsGroup, if_true, hcolumns.columnGroup, hto]
  rw [TableConstraint.ofClause?]
  simp only [List.cons_append, List.nil_append]
  rw [hbody, Clause.after?_cons_ne (by simp [hf])]
  rfl

end Ddl

end EntityRelation
