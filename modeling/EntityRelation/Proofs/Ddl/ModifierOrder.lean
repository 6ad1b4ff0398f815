import EntityRelation.Proofs.Ddl.ModifierReading

/-!
# Modifiers in any order

A modifier is complete when it has all the words and groups that belong to it. A complete modifier
is read as a whole and nothing behind it is, since none of the words that start a modifier goes on
with one (`IsModifier.alters`). So what a column definition says is what its modifiers say one by
one (`Column.described`), and their order does not matter as long as there is one default value and
one reference at most.
-/

namespace EntityRelation

namespace Ddl

/-- What a modifier says about its column. -/
inductive Trait where
  | primaryKey
  | notNull
  | unique
  | autoIncrement
  | default (value : String)
  | reference (target : ForeignTarget)
  /-- Nothing that the schema keeps. -/
  | silent
  deriving DecidableEq

namespace Trait

/-- The column with what the modifier says. -/
def apply (column : Column) : Trait → Column
  | primaryKey => column.withKey
  | notNull => column.withNotNull
  | unique => column.withUnique
  | autoIncrement => column.withNumbering
  | default value => { column with defaultValue := some value }
  | reference target => { column with reference := some target }
  | silent => column

/-- The default value that a modifier gives. -/
def default? : Trait → Option String
  | default value => some value
  | _ => none

/-- The reference that a modifier makes. -/
def reference? : Trait → Option ForeignTarget
  | reference target => some target
  | _ => none

end Trait

open Clause

/-- The lexemes of the name of a table, which may be qualified. -/
inductive IsTableName : String → Clause → Prop where
  | last {l : Lexeme} {name : String} (hl : l.name? = some name) : IsTableName name [l]
  | qualified {l point : Lexeme} {name : String} {c : Clause} (hl : l.isName = true)
      (hpoint : point.token = .period) (hc : IsTableName name c) :
      IsTableName name (l :: point :: c)

/-- The lexemes of a complete modifier, and what it says. -/
inductive IsModifier : Trait → Clause → Prop where
  | primaryKey {l m : Lexeme} (hl : l.keyword? = some .primary) (hm : m.keyword? = some .key) :
      IsModifier .primaryKey [l, m]
  | notNull {l m : Lexeme} (hl : l.keyword? = some .notWord) (hm : m.keyword? = some .null) :
      IsModifier .notNull [l, m]
  | null {l : Lexeme} (hl : l.keyword? = some .null) : IsModifier .silent [l]
  | unique {l : Lexeme} (hl : l.keyword? = some .unique) : IsModifier .unique [l]
  /-- A default value. Its first lexeme may be a modifier word, as in `DEFAULT NULL`. -/
  | default {l first : Lexeme} {more : Clause} (hl : l.keyword? = some .defaultWord)
      (hbalanced : isBalanced 0 (first :: more) = true)
      (hmore : more.Outside NoModifier (if first.token = .leftParen then 1 else 0))
      (htext : Clause.text (first :: more) ≠ "") :
      IsModifier (.default (Clause.text (first :: more))) (l :: first :: more)
  /-- `REFERENCES` and a table. -/
  | referenceTable {l : Lexeme} {table : String} {c : Clause}
      (hl : l.keyword? = some .references) (hc : IsTableName table c) :
      IsModifier (.reference ⟨table, none⟩) (l :: c)
  /-- `REFERENCES`, a table and a column of it. -/
  | referenceColumn {l left m right : Lexeme} {table column : String} {c : Clause}
      (hl : l.keyword? = some .references) (hc : IsTableName table c)
      (hleft : left.token = .leftParen) (hm : m.name? = some column)
      (hright : right.token = .rightParen) :
      IsModifier (.reference ⟨table, some column⟩) (l :: (c ++ [left, m, right]))
  | autoIncrement {l : Lexeme}
      (hl : l.keyword? = some .autoIncrement ∨ l.keyword? = some .autoincrement) :
      IsModifier .autoIncrement [l]
  | identity {l left right : Lexeme} {c : Clause} (hl : l.keyword? = some .identity)
      (hleft : left.token = .leftParen) (hc : c.isBalanced 0 = true)
      (hright : right.token = .rightParen) :
      IsModifier .autoIncrement (l :: (left :: c ++ [right]))
  | generatedAlways {l always as identity : Lexeme} (hl : l.keyword? = some .generated)
      (halways : always.keyword? = some .always) (has : as.keyword? = some .asWord)
      (hidentity : identity.keyword? = some .identity) :
      IsModifier .autoIncrement [l, always, as, identity]
  | generatedByDefault {l by' default as identity : Lexeme} (hl : l.keyword? = some .generated)
      (hby : by'.keyword? = some .byWord) (hdefault : default.keyword? = some .defaultWord)
      (has : as.keyword? = some .asWord) (hidentity : identity.keyword? = some .identity) :
      IsModifier .autoIncrement [l, by', default, as, identity]
  | check {l left right : Lexeme} {c : Clause} (hl : l.keyword? = some .check)
      (hleft : left.token = .leftParen) (hc : c.isBalanced 0 = true)
      (hright : right.token = .rightParen) :
      IsModifier .silent (l :: (left :: c ++ [right]))
  /-- `COLLATE`, `COMMENT`, `CHARSET` or `CONSTRAINT`, and one lexeme after it. -/
  | labelled {l m : Lexeme} {k : Keyword} (hl : l.keyword? = some k)
      (hk : k ∈ [Keyword.collate, .comment, .charset, .constraint]) : IsModifier .silent [l, m]
  | characterSet {l m n : Lexeme} (hl : l.keyword? = some .character)
      (hm : m.keyword? = some .setWord) : IsModifier .silent [l, m, n]
  /-- `ON UPDATE` or `ON DELETE` with an action of one word. -/
  | action {l event m : Lexeme} (hl : l.keyword? = some .on)
      (hevent : event.isAny [.update, .delete] = true) (hm : m.isAny [.setWord, .no] = false) :
      IsModifier .silent [l, event, m]
  /-- `ON UPDATE` or `ON DELETE` with `SET NULL`, `SET DEFAULT` or `NO ACTION`. -/
  | actionOfTwo {l event m n : Lexeme} (hl : l.keyword? = some .on)
      (hevent : event.isAny [.update, .delete] = true) (hm : m.isAny [.setWord, .no] = true) :
      IsModifier .silent [l, event, m, n]

/-! ## Names of tables -/

variable {l m : Lexeme} {c rest : Clause} {name : String}

/-- The clause does not go on with a qualified name. -/
def NoPeriod (c : Clause) : Prop :=
  ∀ l ∈ c.head?, l.token ≠ .period

theorem noPeriod_cons (hl : l.token ≠ .period) : NoPeriod (l :: c) := by
  intro l' hl'
  obtain rfl := Option.some.inj hl'
  exact hl

theorem noPeriod_of_fresh (h : StartsFresh c) : NoPeriod c := by
  cases c with
  | nil => exact nofun
  | cons l c =>
      obtain ⟨k, -, hk⟩ := h.exists_keyword?
      obtain ⟨value, hvalue⟩ := isWord_of_keyword? hk
      exact noPeriod_cons (by simp [hvalue])

theorem qualifiedFrom_of_noPeriod (h : NoPeriod rest) (name : String) :
    qualifiedFrom name rest = (name, rest) := by
  cases rest with
  | nil => simp [qualifiedFrom]
  | cons point rest =>
      cases rest with
      | nil => simp [qualifiedFrom]
      | cons part rest => rw [qualifiedFrom, if_neg (h point rfl)]

/-- The name of a table is read as a whole. -/
theorem IsTableName.tableName?_append (h : IsTableName name c) (hrest : NoPeriod rest) :
    tableName? (c ++ rest) = some (name, rest) := by
  induction h with
  | last hl =>
      rw [List.singleton_append, tableName?, hl, Option.map_some, qualifiedFrom_of_noPeriod hrest]
  | @qualified l point name c hl hpoint hc ih =>
      obtain ⟨first, hfirst⟩ := Option.isSome_iff_exists.1 hl
      rw [List.cons_append, List.cons_append, tableName?, hfirst, Option.map_some]
      cases hc with
      | last hm =>
          rw [List.singleton_append, tableName?, hm, Option.map_some] at ih
          rw [List.singleton_append, qualifiedFrom, if_pos hpoint, hm]
          exact ih
      | qualified hm _ _ =>
          obtain ⟨second, hsecond⟩ := Option.isSome_iff_exists.1 hm
          rw [List.cons_append, tableName?, hsecond, Option.map_some] at ih
          rw [List.cons_append, qualifiedFrom, if_pos hpoint, hsecond]
          exact ih

/-! ## Complete modifiers are read as a whole -/

theorem token_of_name? (hm : m.name? = some name) :
    m.token ≠ .comma ∧ m.token ≠ .leftParen ∧ m.token ≠ .rightParen := by
  refine ⟨?_, ?_, ?_⟩ <;>
  · intro htoken
    rw [Lexeme.name?, htoken] at hm
    cases hm

theorem columnNames_singleton (hm : m.name? = some name) : columnNames [m] = [name] := by
  have htoken := token_of_name? hm
  have hsplit : splitFrom [] 0 [m] = [[m]] := by
    rw [splitFrom_other htoken.2 fun _ => htoken.1]
    rfl
  rw [columnNames, splitTopLevel, hsplit]
  simp [hm]

namespace Column

open Alters

theorem skip_cons {k : Keyword} (hl : l.keyword? = some k) : skip [k] (l :: rest) = rest := by
  rw [skip, after?_cons hl, after?]
  rfl

theorem skip_cons_of_ne {k k' : Keyword} {ks : List Keyword} (hl : l.keyword? = some k)
    (hk : k ≠ k') : skip (k' :: ks) (l :: rest) = l :: rest := by
  rw [skip, after?_cons_ne (by simpa [hl] using hk)]
  rfl

/-- `NULL` and `CHECK` are passed over with the group behind them. -/
theorem modifier_skipGroup (hl : l.keyword? = some .null ∨ l.keyword? = some .check)
    (column : Column) : column.modifier l rest = (column, rest.skipGroup) := by
  have hword : l.token ≠ .leftParen ∧ l.token.isWord = true := by
    rcases hl with hl | hl <;>
    · obtain ⟨value, hvalue⟩ := isWord_of_keyword? hl
      exact ⟨(paren_of_keyword? hl).1, by rw [hvalue, Token.isWord]⟩
  rcases hl with hl | hl <;> simp only [modifier, hl, if_neg hword.1, if_pos hword.2]

theorem skipAny_of_fresh (h : StartsFresh rest) {ks : List Keyword}
    (hks : ∀ k ∈ ks, k ∉ startWords) : skipAny ks rest = rest := by
  cases rest with
  | nil => rfl
  | cons l rest =>
      rw [skipAny, h.isAny_eq_false hks, if_neg Bool.false_ne_true]

namespace Alters

theorem null (hl : l.keyword? = some .null) : Alters id [l] := by
  refine of_cons hl (by decide) fun column rest hrest => ?_
  rw [modifier_skipGroup (Or.inl hl), List.nil_append, hrest.skipGroup_eq, id]

theorem check (hl : l.keyword? = some .check) {left right : Lexeme}
    (hleft : left.token = .leftParen) (hright : right.token = .rightParen)
    (hc : c.isBalanced 0 = true) : Alters id (l :: (left :: c ++ [right])) := by
  refine of_cons hl (by decide) fun column rest _ => ?_
  rw [modifier_skipGroup (Or.inr hl), skipGroup, group?_delimited hleft hright hc, id]

theorem labelled {k : Keyword} (hl : l.keyword? = some k)
    (hk : k ∈ [Keyword.collate, .comment, .charset, .constraint]) : Alters id [l, m] := by
  refine of_cons hl ?_ fun column rest _ => ?_
  · exact (by decide : ∀ k ∈ [Keyword.collate, .comment, .charset, .constraint],
      k ∈ modifierWords) k hk
  · simp only [List.mem_cons, List.not_mem_nil, or_false] at hk
    rcases hk with rfl | rfl | rfl | rfl <;>
      simp only [modifier, hl, List.singleton_append, List.drop_succ_cons, List.drop_zero, id]

/-- `CHARACTER` starts a modifier only with the word behind it. -/
theorem characterSet {n : Lexeme} (hl : l.keyword? = some .character)
    (hm : m.keyword? = some .setWord) : Alters id [l, m, n] := by
  constructor
  · exact fun rest _ => StartsFresh.cons_character hl hm
  · intro column rest _
    have hskip : skip [.setWord] (m :: n :: rest) = n :: rest := skip_cons hm
    simp only [List.cons_append, List.nil_append, modifiers_cons column l, modifier, hl, hskip,
      List.drop_succ_cons, List.drop_zero, id]

theorem action {event : Lexeme} (hl : l.keyword? = some .on)
    (hevent : event.isAny [.update, .delete] = true) (hm : m.isAny [.setWord, .no] = false) :
    Alters id [l, event, m] := by
  refine of_cons hl (by decide) fun column rest hrest => ?_
  simp only [modifier, hl, skipAction, List.cons_append, List.nil_append, skipAny, hevent,
    if_true, hm, Bool.false_eq_true, if_false, hrest.skipGroup_eq, id]

theorem actionOfTwo {event n : Lexeme} (hl : l.keyword? = some .on)
    (hevent : event.isAny [.update, .delete] = true) (hm : m.isAny [.setWord, .no] = true) :
    Alters id [l, event, m, n] := by
  refine of_cons hl (by decide) fun column rest _ => ?_
  simp only [modifier, hl, skipAction, List.cons_append, List.nil_append, skipAny, hevent,
    if_true, hm, List.drop_succ_cons, List.drop_zero, id]

theorem referenceTable (hl : l.keyword? = some .references) (hc : IsTableName name c) :
    Alters (fun column => { column with reference := some ⟨name, none⟩ }) (l :: c) := by
  refine of_cons hl (by decide) fun column rest hrest => ?_
  simp only [modifier, hl, readReference, hc.tableName?_append (noPeriod_of_fresh hrest),
    hrest.group?_eq_none]

theorem referenceColumn {left right : Lexeme} {target : String}
    (hl : l.keyword? = some .references) (hc : IsTableName name c)
    (hleft : left.token = .leftParen) (hm : m.name? = some target)
    (hright : right.token = .rightParen) :
    Alters (fun column => { column with reference := some ⟨name, some target⟩ })
      (l :: (c ++ [left, m, right])) := by
  refine of_cons hl (by decide) fun column rest _ => ?_
  have hperiod : NoPeriod ([left, m, right] ++ rest) := noPeriod_cons (by simp [hleft])
  have hinner : isBalanced 0 [m] = true := by
    obtain ⟨-, hopen, hclose⟩ := token_of_name? hm
    rw [isBalanced, if_neg hopen, if_neg hclose]
    rfl
  have hgroup : group? ([left, m, right] ++ rest) = some ([m], rest) :=
    group?_delimited hleft hright hinner rest
  simp only [modifier, hl, List.append_assoc, readReference, hc.tableName?_append hperiod,
    hgroup, columnNames_singleton hm, List.head?_cons]

/-- `GENERATED`, some words that are passed over, `AS IDENTITY` and its arguments. -/
theorem generated {as identity : Lexeme} {arguments : Clause} (hl : l.keyword? = some .generated)
    (has : as.keyword? = some .asWord) (hidentity : identity.keyword? = some .identity)
    (harguments : IsOptionalGroup arguments)
    (hc : ∀ rest, ((c ++ rest).skip [.always]).skip [.byWord, .defaultWord] =
      as :: identity :: (arguments ++ rest)) : Alters withNumbering (l :: c) := by
  refine of_cons hl (by decide) fun column rest hrest => ?_
  have hstart : startsWith .identity (identity :: (arguments ++ rest)) = true := by
    rw [startsWith, Lexeme.isKeyword, hidentity, beq_self_eq_true]
  have hkept : skipAny [.stored, .virtual] rest = rest := skipAny_of_fresh hrest (by decide)
  simp only [modifier, hl, readGenerated, hc, after?_cons has, after?, hstart, if_true,
    skip_cons hidentity, harguments.skipGroup_append hrest, hkept, withNumbering]

theorem generatedAlways {always as identity : Lexeme} {arguments : Clause}
    (hl : l.keyword? = some .generated) (halways : always.keyword? = some .always)
    (has : as.keyword? = some .asWord) (hidentity : identity.keyword? = some .identity)
    (harguments : IsOptionalGroup arguments) :
    Alters withNumbering (l :: always :: as :: identity :: arguments) := by
  refine generated hl has hidentity harguments fun rest => ?_
  rw [List.cons_append, skip_cons halways, List.cons_append, skip_cons_of_ne has (by decide)]
  rfl

theorem generatedByDefault {by' default as identity : Lexeme} {arguments : Clause}
    (hl : l.keyword? = some .generated) (hby : by'.keyword? = some .byWord)
    (hdefault : default.keyword? = some .defaultWord) (has : as.keyword? = some .asWord)
    (hidentity : identity.keyword? = some .identity) (harguments : IsOptionalGroup arguments) :
    Alters withNumbering (l :: by' :: default :: as :: identity :: arguments) := by
  refine generated hl has hidentity harguments fun rest => ?_
  rw [List.cons_append, skip_cons_of_ne hby (by decide), skip, List.cons_append, after?_cons hby,
    after?_cons hdefault, after?]
  rfl

end Alters

end Column

open Column

/-- A complete modifier does to the column what it says, and leaves what follows it. -/
theorem IsModifier.alters {t : Trait} (h : IsModifier t c) :
    Alters (fun column => t.apply column) c := by
  cases h with
  | primaryKey hl hm => exact .primaryKey hl hm
  | notNull hl hm => exact .notNull hl hm
  | null hl => exact .null hl
  | unique hl => exact .unique hl
  | default hl hbalanced hmore htext =>
      have hvalue := Alters.default hl hbalanced hmore
      have happly : (fun column : Column => column.withDefault _) =
          fun column => (Trait.default _).apply column :=
        funext fun column => if_neg (by simpa using htext)
      rwa [happly] at hvalue
  | referenceTable hl hc => exact .referenceTable hl hc
  | referenceColumn hl hc hleft hm hright => exact .referenceColumn hl hc hleft hm hright
  | autoIncrement hl => exact .autoIncrement hl
  | identity hl hleft hc hright => exact .identity hl (.inr ⟨_, _, _, rfl, hleft, hright, hc⟩)
  | generatedAlways hl halways has hidentity =>
      exact .generatedAlways hl halways has hidentity (.inl rfl)
  | generatedByDefault hl hby hdefault has hidentity =>
      exact .generatedByDefault hl hby hdefault has hidentity (.inl rfl)
  | check hl hleft hc hright => exact .check hl hleft hright hc
  | labelled hl hk => exact .labelled hl hk
  | characterSet hl hm => exact .characterSet hl hm
  | action hl hevent hm => exact .action hl hevent hm
  | actionOfTwo hl hevent hm => exact .actionOfTwo hl hevent hm

/-- A row of complete modifiers does to the column what they say, one after the other. -/
theorem alters_flatten {groups : List (Trait × Clause)} (h : ∀ g ∈ groups, IsModifier g.1 g.2) :
    Alters (fun column => (groups.map Prod.fst).foldl Trait.apply column)
      (groups.map Prod.snd).flatten := by
  induction groups with
  | nil => exact Alters.nil
  | cons g groups ih =>
      have hfirst := (h g List.mem_cons_self).alters
      exact hfirst.append (ih fun g' hg' => h g' (List.mem_cons_of_mem g hg'))

/-! ## What a row of modifiers says -/

namespace Column

/-- The column of this name and type with just what its modifiers say. Of several default values
the last one counts, and so does the last reference. -/
def described (name dataType : String) (traits : List Trait) : Column where
  name
  dataType
  isPrimaryKey := decide (.primaryKey ∈ traits)
  isNotNull := decide (.notNull ∈ traits)
  isUnique := decide (.unique ∈ traits)
  defaultValue := (traits.filterMap Trait.default?).getLast?
  isAutoIncrement := decide (.autoIncrement ∈ traits)
  reference := (traits.filterMap Trait.reference?).getLast?

theorem described_concat (name dataType : String) (traits : List Trait) (t : Trait) :
    described name dataType (traits ++ [t]) = t.apply (described name dataType traits) := by
  cases t <;>
    simp [described, Trait.apply, Trait.default?, Trait.reference?, withKey, withNotNull,
      withUnique, withNumbering]

/-- One modifier after the other, or all at once. -/
theorem foldl_apply (name dataType : String) (traits : List Trait) :
    traits.foldl Trait.apply { name, dataType } = described name dataType traits := by
  induction traits using List.reverseRecOn with
  | nil => rfl
  | append_singleton traits t ih =>
      rw [List.foldl_append, ih, described_concat, List.foldl_cons, List.foldl_nil]

end Column

theorem eq_of_perm_of_length_le_one {α : Type} {xs ys : List α} (h : xs.Perm ys)
    (hlength : ys.length ≤ 1) : xs = ys := by
  match ys, hlength with
  | [], _ => exact h.eq_nil
  | [y], _ => exact List.perm_singleton.1 h

namespace Column

/-- The order of modifiers does not matter if there is nothing to choose between. -/
theorem described_perm {traits traits' : List Trait} (h : traits'.Perm traits)
    (hdefault : (traits.filterMap Trait.default?).length ≤ 1)
    (hreference : (traits.filterMap Trait.reference?).length ≤ 1) (name dataType : String) :
    described name dataType traits' = described name dataType traits := by
  have hvalue := eq_of_perm_of_length_le_one (h.filterMap Trait.default?) hdefault
  have htarget := eq_of_perm_of_length_le_one (h.filterMap Trait.reference?) hreference
  simp only [described, h.mem_iff, hvalue, htarget]

/-- A column definition says what its modifiers say, in whatever order they stand. -/
theorem ofClause_of_modifiers {l : Lexeme} {name : String} (hl : l.name? = some name)
    {type : Clause} (hne : type ≠ []) (hbalanced : type.isBalanced 0 = true)
    (htype : type.Outside NoModifier 0) {groups : List (Trait × Clause)}
    (hgroups : ∀ g ∈ groups, IsModifier g.1 g.2)
    (hdefault : ((groups.map Prod.fst).filterMap Trait.default?).length ≤ 1)
    (hreference : ((groups.map Prod.fst).filterMap Trait.reference?).length ≤ 1)
    {groups' : List (Trait × Clause)} (hperm : groups'.Perm groups) :
    ofClause (l :: (type ++ (groups'.map Prod.snd).flatten)) =
      .ok (described name type.text (groups.map Prod.fst)) := by
  have hgroups' : ∀ g ∈ groups', IsModifier g.1 g.2 := fun g hg => hgroups g (hperm.mem_iff.1 hg)
  rw [(alters_flatten hgroups').ofClause_eq hl hne hbalanced htype, foldl_apply,
    described_perm (hperm.map Prod.fst) hdefault hreference]

/-- A word in a row of words. -/
def wordLexeme (word : String) : Lexeme :=
  ⟨.word word, word, .start, true⟩

/-- Modifiers that have words of other modifiers in them. -/
def ownerModifiers : List (Trait × Clause) :=
  [(.default "NULL", ["DEFAULT", "NULL"].map wordLexeme),
    (.notNull, ["NOT", "NULL"].map wordLexeme),
    (.autoIncrement, ["GENERATED", "BY", "DEFAULT", "AS", "IDENTITY"].map wordLexeme),
    (.reference ⟨"users", some "id"⟩,
      ["REFERENCES", "users"].map wordLexeme ++
        [⟨.leftParen, "(", .start, false⟩, wordLexeme "id", ⟨.rightParen, ")", .start, false⟩]),
    (.silent, ["ON", "DELETE", "SET", "NULL"].map wordLexeme)]

theorem ofClause_of_modifiers_owner :
    ofClause (wordLexeme "owner" :: ([wordLexeme "BIGINT"] ++
        (ownerModifiers.reverse.map Prod.snd).flatten)) =
      .ok { name := "owner", dataType := "BIGINT", isNotNull := true, isAutoIncrement := true,
            defaultValue := some "NULL", reference := some ⟨"users", some "id"⟩ } := by
  have hgroups : ∀ g ∈ ownerModifiers, IsModifier g.1 g.2 := by
    intro g hg
    simp only [ownerModifiers, List.mem_cons, List.not_mem_nil, or_false] at hg
    rcases hg with rfl | rfl | rfl | rfl | rfl
    · have hdefault : IsModifier (.default (Clause.text [wordLexeme "NULL"]))
          [wordLexeme "DEFAULT", wordLexeme "NULL"] :=
        .default (by decide) (by decide) (by decide) (by decide)
      exact hdefault
    · exact .notNull (by decide) (by decide)
    · exact .generatedByDefault (by decide) (by decide) (by decide) (by decide) (by decide)
    · exact .referenceColumn (c := [wordLexeme "users"]) (by decide) (.last rfl) rfl rfl rfl
    · exact .actionOfTwo (by decide) (by decide) (by decide)
  exact ofClause_of_modifiers rfl (by decide) (by decide) (by decide) hgroups (by decide)
    (by decide) (List.reverse_perm ownerModifiers)

end Column

end Ddl

end EntityRelation
