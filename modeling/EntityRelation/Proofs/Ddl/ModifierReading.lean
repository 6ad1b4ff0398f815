import EntityRelation.Proofs.Ddl.ConstraintReading
import EntityRelation.Proofs.Ddl.Fragment

/-!
# Modifiers read back

What a script writes after the type of a column is a row of modifiers. Each of them starts with a
word that ends the one before it, so they are read one after the other, and each does to the column
what it says.
-/

namespace EntityRelation

namespace Ddl

open Lexer

namespace Clause

/-- The words that start a modifier; the last one only with another word behind it. -/
def startWords : List Keyword :=
  modifierWords ++ [.character]

/-- The clause goes on with a modifier, if it goes on. -/
def StartsFresh (c : Clause) : Prop :=
  c = [] ∨ c.startsModifier = true

variable {c rest : Clause} {l m : Lexeme}

theorem StartsFresh.nil : StartsFresh [] :=
  Or.inl rfl

theorem StartsFresh.cons {k : Keyword} (hl : l.keyword? = some k) (hk : k ∈ modifierWords) :
    StartsFresh (l :: rest) := by
  refine Or.inr ?_
  rw [startsModifier, Bool.or_eq_true]
  refine Or.inl (List.any_eq_true.2 ⟨k, hk, ?_⟩)
  rw [Lexeme.isKeyword, hl, beq_self_eq_true]

theorem StartsFresh.cons_character (hl : l.keyword? = some .character)
    (hm : m.keyword? = some .setWord) : StartsFresh (l :: m :: rest) := by
  refine Or.inr ?_
  rw [startsModifier, startsWith, Lexeme.isKeyword, Lexeme.isKeyword, hl, hm, beq_self_eq_true,
    beq_self_eq_true, Bool.and_self, Bool.or_true]

theorem StartsFresh.exists_keyword? (h : StartsFresh (l :: rest)) :
    ∃ k ∈ startWords, l.keyword? = some k := by
  have hstarts := h.resolve_left (List.cons_ne_nil l rest)
  rw [startsModifier, Bool.or_eq_true, Bool.and_eq_true] at hstarts
  rcases hstarts with hany | ⟨hcharacter, -⟩
  · obtain ⟨k, hk, hl⟩ := List.any_eq_true.1 hany
    exact ⟨k, List.mem_append_left _ hk, beq_iff_eq.1 hl⟩
  · exact ⟨.character, by decide, beq_iff_eq.1 hcharacter⟩

theorem StartsFresh.startsWith_eq_false (h : StartsFresh c) {k : Keyword} (hk : k ∉ startWords) :
    c.startsWith k = false := by
  cases c with
  | nil => rfl
  | cons l c =>
      obtain ⟨k', hk', hl⟩ := h.exists_keyword?
      rw [startsWith, Lexeme.isKeyword, hl, beq_eq_false_iff_ne]
      intro heq
      exact hk (Option.some.inj heq ▸ hk')

theorem StartsFresh.isAny_eq_false (h : StartsFresh (l :: rest)) {ks : List Keyword}
    (hks : ∀ k ∈ ks, k ∉ startWords) : l.isAny ks = false := by
  rw [Lexeme.isAny, List.any_eq_false]
  intro k hk
  exact Bool.eq_false_iff.1 (h.startsWith_eq_false (hks k hk))

theorem isWord_of_keyword? {k : Keyword} (h : l.keyword? = some k) :
    ∃ value, l.token = .word value := by
  rw [Lexeme.keyword?] at h
  cases htoken : l.token with
  | word value => exact ⟨value, rfl⟩
  | _ => simp [htoken, Token.keyword?] at h

theorem isInner_of_keyword? {k : Keyword} (h : l.keyword? = some k) : isInner l.token = true := by
  obtain ⟨value, htoken⟩ := isWord_of_keyword? h
  rw [htoken]
  rfl

theorem paren_of_keyword? {k : Keyword} (h : l.keyword? = some k) :
    l.token ≠ .leftParen ∧ l.token ≠ .rightParen := by
  obtain ⟨value, htoken⟩ := isWord_of_keyword? h
  rw [htoken]
  exact ⟨nofun, nofun⟩

/-- A type or a default ends before a modifier. -/
theorem StartsFresh.run_eq (h : StartsFresh c) : run 0 c = ([], c) := by
  cases c with
  | nil => rfl
  | cons l c =>
      obtain ⟨k, -, hl⟩ := h.exists_keyword?
      exact run_modifier (paren_of_keyword? hl) (h.resolve_left (List.cons_ne_nil l c))

theorem StartsFresh.skip_key (h : StartsFresh c) : c.skip [.key] = c := by
  have hkey := h.startsWith_eq_false (k := .key) (by decide)
  cases c with
  | nil => rfl
  | cons l c =>
      rw [startsWith] at hkey
      rw [skip, after?, hkey]
      rfl

theorem StartsFresh.group?_eq_none (h : StartsFresh c) : c.group? = none := by
  cases c with
  | nil => rfl
  | cons l c =>
      obtain ⟨k, -, hl⟩ := h.exists_keyword?
      rw [group?, if_neg (paren_of_keyword? hl).1]

theorem StartsFresh.skipGroup_eq (h : StartsFresh c) : c.skipGroup = c := by
  rw [skipGroup, h.group?_eq_none]

end Clause

open Clause

/-- A group with its parentheses. -/
def IsGroup (c : Clause) : Prop :=
  ∃ (left : Lexeme) (inner : Clause) (right : Lexeme), c = left :: inner ++ [right] ∧
    left.token = .leftParen ∧ right.token = .rightParen ∧ inner.isBalanced 0 = true

theorem IsGroup.skipGroup_append {c : Clause} (h : IsGroup c) (rest : Clause) :
    (c ++ rest).skipGroup = rest := by
  obtain ⟨left, inner, right, rfl, hleft, hright, hinner⟩ := h
  rw [skipGroup, group?_delimited hleft hright hinner]

/-- A group that may be missing. -/
def IsOptionalGroup (c : Clause) : Prop :=
  c = [] ∨ IsGroup c

theorem IsOptionalGroup.skipGroup_append {c rest : Clause} (h : IsOptionalGroup c)
    (hrest : StartsFresh rest) : (c ++ rest).skipGroup = rest := by
  rcases h with rfl | hgroup
  · exact hrest.skipGroup_eq
  · exact hgroup.skipGroup_append rest

namespace Column

theorem modifiers_cons (column : Column) (l : Lexeme) (rest : Clause) :
    modifiers column (l :: rest) =
      modifiers (column.modifier l rest).1 (column.modifier l rest).2 := by
  rw [modifiers]

/-- The column as a primary key. -/
def withKey (column : Column) : Column :=
  { column with isPrimaryKey := true }

/-- The column without nulls. -/
def withNotNull (column : Column) : Column :=
  { column with isNotNull := true }

/-- The column with values that differ. -/
def withUnique (column : Column) : Column :=
  { column with isUnique := true }

/-- The column with values that are numbered automatically. -/
def withNumbering (column : Column) : Column :=
  { column with isAutoIncrement := true }

/-- The clause is a row of modifiers that change a column in a certain way, whatever modifiers
follow. -/
structure Alters (f : Column → Column) (c : Clause) : Prop where
  fresh : ∀ rest, StartsFresh rest → StartsFresh (c ++ rest)
  modifiers_eq : ∀ column rest, StartsFresh rest →
    modifiers column (c ++ rest) = modifiers (f column) rest

/-- Modifiers that can stand between commas. -/
structure Modifies (f : Column → Column) (c : Clause) : Prop extends Alters f c where
  contained : c.IsContained

variable {f g : Column → Column} {c c' : Clause} {l m : Lexeme}

namespace Alters

theorem nil : Alters id [] :=
  ⟨fun _ h => h, fun _ _ _ => rfl⟩

theorem append (h : Alters f c) (h' : Alters g c') : Alters (g ∘ f) (c ++ c') := by
  constructor
  · intro rest hrest
    rw [List.append_assoc]
    exact h.fresh _ (h'.fresh rest hrest)
  · intro column rest hrest
    rw [List.append_assoc, h.modifiers_eq column _ (h'.fresh rest hrest),
      h'.modifiers_eq _ rest hrest]
    rfl

theorem modifiers_of_fresh (h : Alters f c) (column : Column) :
    modifiers column c = f column := by
  have hend := h.modifiers_eq column [] StartsFresh.nil
  rw [List.append_nil, modifiers] at hend
  exact hend

/-- A name in front of a type and modifiers makes a column. -/
theorem ofClause_eq (h : Alters f c) {name : String} (hl : l.name? = some name) {type : Clause}
    (hne : type ≠ []) (hbalanced : type.isBalanced 0 = true)
    (hmodifier : type.Outside NoModifier 0) :
    ofClause (l :: (type ++ c)) = .ok (f { name, dataType := type.text }) := by
  have hfresh : StartsFresh c := by simpa using h.fresh [] StartsFresh.nil
  have hrun := run_append hbalanced hmodifier (hfresh.startsWith_eq_false (by decide))
  rw [hfresh.run_eq, List.append_nil] at hrun
  rw [ofClause]
  simp only [hl, hrun, List.isEmpty_eq_false_iff.2 hne, Bool.false_eq_true, if_false,
    h.modifiers_of_fresh]

/-- A modifier whose first word is `k`. -/
theorem of_cons {k : Keyword} (hl : l.keyword? = some k) (hk : k ∈ modifierWords)
    (hmodifier : ∀ column rest, StartsFresh rest →
      Column.modifier column l (c ++ rest) = (f column, rest)) :
    Alters f (l :: c) := by
  constructor
  · exact fun rest _ => StartsFresh.cons hl hk
  · intro column rest hrest
    rw [List.cons_append, modifiers_cons, hmodifier column rest hrest]

theorem primaryKey (hl : l.keyword? = some .primary) (hm : m.keyword? = some .key) :
    Alters withKey [l, m] := by
  refine of_cons hl (by decide) ?_
  intro column rest _
  simp only [modifier, hl, List.singleton_append, skip, after?_cons hm, after?, Option.getD_some,
    withKey]

theorem notNull (hl : l.keyword? = some .notWord) (hm : m.keyword? = some .null) :
    Alters withNotNull [l, m] := by
  refine of_cons hl (by decide) ?_
  intro column rest _
  have hnull : startsWith .null (m :: rest) = true := by
    rw [startsWith, Lexeme.isKeyword, hm, beq_self_eq_true]
  simp only [modifier, hl, List.singleton_append, hnull, if_true, List.drop_succ_cons,
    List.drop_zero, withNotNull]

theorem unique (hl : l.keyword? = some .unique) :
    Alters withUnique [l] := by
  refine of_cons hl (by decide) ?_
  intro column rest hrest
  simp only [modifier, hl, List.nil_append, hrest.skip_key, withUnique]

theorem autoIncrement (hl : l.keyword? = some .autoIncrement ∨ l.keyword? = some .autoincrement) :
    Alters withNumbering [l] := by
  rcases hl with hl | hl
  · refine of_cons hl (by decide) ?_
    intro column rest hrest
    simp only [modifier, hl, List.nil_append, withNumbering]
  · refine of_cons hl (by decide) ?_
    intro column rest hrest
    simp only [modifier, hl, List.nil_append, withNumbering]

theorem identity (hl : l.keyword? = some .identity) (hc : IsOptionalGroup c) :
    Alters withNumbering (l :: c) := by
  refine of_cons hl (by decide) ?_
  intro column rest hrest
  simp only [modifier, hl, hc.skipGroup_append hrest, withNumbering]

theorem default (hl : l.keyword? = some .defaultWord) (hc : isBalanced 0 (m :: c) = true)
    (hrest : c.Outside NoModifier (if m.token = .leftParen then 1 else 0)) :
    Alters (fun column => column.withDefault (Clause.text (m :: c))) (l :: m :: c) := by
  refine of_cons hl (by decide) ?_
  intro column rest hfresh
  have hbalanced : isBalanced (if m.token = .leftParen then 1 else 0) c = true := by
    rw [isBalanced] at hc
    rcases token_cases m with hleft | hright | hother
    · rwa [if_pos hleft] at hc ⊢
    · rw [if_neg (by simp [hright]), if_pos hright] at hc
      exact absurd hc (by simp)
    · rw [if_neg hother.1, if_neg hother.2] at hc
      rwa [if_neg hother.1]
  have hrun := run_append hbalanced hrest (hfresh.startsWith_eq_false (by decide))
  rw [hfresh.run_eq, List.append_nil] at hrun
  simp only [modifier, hl, List.cons_append, defaultRun, hrun, Prod.map, id]

end Alters

namespace Modifies

theorem nil : Modifies id [] :=
  ⟨.nil, IsContained.nil⟩

theorem append (h : Modifies f c) (h' : Modifies g c') : Modifies (g ∘ f) (c ++ c') :=
  ⟨h.toAlters.append h'.toAlters, h.contained.append h'.contained⟩

theorem primaryKey (hl : l.keyword? = some .primary) (hm : m.keyword? = some .key) :
    Modifies withKey [l, m] :=
  ⟨.primaryKey hl hm,
    (IsContained.nil.cons (isInner_of_keyword? hm)).cons (isInner_of_keyword? hl)⟩

theorem notNull (hl : l.keyword? = some .notWord) (hm : m.keyword? = some .null) :
    Modifies withNotNull [l, m] :=
  ⟨.notNull hl hm, (IsContained.nil.cons (isInner_of_keyword? hm)).cons (isInner_of_keyword? hl)⟩

theorem unique (hl : l.keyword? = some .unique) : Modifies withUnique [l] :=
  ⟨.unique hl, IsContained.nil.cons (isInner_of_keyword? hl)⟩

theorem autoIncrement (hl : l.keyword? = some .autoIncrement ∨ l.keyword? = some .autoincrement) :
    Modifies withNumbering [l] := by
  refine ⟨.autoIncrement hl, IsContained.nil.cons ?_⟩
  rcases hl with hl | hl
  · exact isInner_of_keyword? hl
  · exact isInner_of_keyword? hl

theorem identity (hl : l.keyword? = some .identity) {left right : Lexeme}
    (hleft : left.token = .leftParen) (hright : right.token = .rightParen) (hc : c.IsInside) :
    Modifies withNumbering (l :: (left :: c ++ [right])) :=
  ⟨.identity hl (.inr ⟨left, c, right, rfl, hleft, hright, hc.balanced⟩),
    (hc.group hleft hright).cons (isInner_of_keyword? hl)⟩

theorem default (hl : l.keyword? = some .defaultWord) {value : String}
    (hc : IsContained (m :: c)) (htext : Clause.text (m :: c) = value)
    (hrest : c.Outside NoModifier (if m.token = .leftParen then 1 else 0)) :
    Modifies (fun column => column.withDefault value) (l :: m :: c) := by
  subst htext
  exact ⟨.default hl hc.balanced hrest, hc.cons (isInner_of_keyword? hl)⟩

end Modifies

end Column

end Ddl

end EntityRelation
