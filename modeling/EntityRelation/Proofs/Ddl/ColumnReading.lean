import EntityRelation.Proofs.Ddl.ModifierReading
import EntityRelation.Schema.ForeignKeys

/-!
# Columns read back

The clause that a script writes for a column is read as this column: the name is found in front of
it, the type ends where the modifiers begin, and whatever a dialect says for a serial type becomes
the serial type again.
-/

namespace EntityRelation

namespace Ddl

open Lexer

/-! ## Modifiers as they are written -/

section Pieces

open Column Script

variable {f : Column → Column} {text : String}

theorem stops_flag (b : Bool) (text : String) : Stops (flag b text).toList := by
  cases b with
  | false => exact stops_nil
  | true =>
      rw [flag, if_pos rfl, String.toList_append]
      exact stops_cons (by decide) _

theorem stops_spaced (text : Option String) : Stops (spaced text).toList := by
  cases text with
  | none => exact stops_nil
  | some text =>
      rw [spaced, String.toList_append]
      exact stops_cons (by decide) _

theorem reads_spaced (h : Reads Stops (' ' :: text.toList) (Modifies f)) :
    Reads Stops (spaced (some text)).toList (Modifies f) := by
  rw [spaced, String.toList_append]
  exact h

theorem reads_spaced_none : Reads Stops (spaced none).toList (Modifies id) := by
  refine Reads.nil.mono ?_
  rintro ls rfl
  exact Modifies.nil

theorem reads_flag (h : Reads Stops (' ' :: text.toList) (Modifies f)) (b : Bool) :
    Reads Stops (flag b text).toList (Modifies (if b then f else id)) := by
  cases b with
  | false => exact reads_spaced_none
  | true => exact reads_spaced h

theorem reads_primaryKey :
    Reads Stops (' ' :: "PRIMARY KEY".toList) (Modifies withKey) := by
  refine (Reads.words ["PRIMARY", "KEY"] (by decide)).mono ?_
  intro ls hls
  obtain ⟨p, k, rfl, hp, hk⟩ := eq_pair_of_tokens hls
  exact Modifies.primaryKey ((Clause.keyword?_of_word hp).trans (by decide))
    ((Clause.keyword?_of_word hk).trans (by decide))

theorem reads_notNull :
    Reads Stops (' ' :: "NOT NULL".toList) (Modifies withNotNull) := by
  refine (Reads.words ["NOT", "NULL"] (by decide)).mono ?_
  intro ls hls
  obtain ⟨l, m, rfl, hl, hm⟩ := eq_pair_of_tokens hls
  exact Modifies.notNull ((Clause.keyword?_of_word hl).trans (by decide))
    ((Clause.keyword?_of_word hm).trans (by decide))

theorem reads_unique :
    Reads Stops (' ' :: "UNIQUE".toList) (Modifies withUnique) := by
  refine (Reads.words ["UNIQUE"] (by decide)).mono ?_
  intro ls hls
  obtain ⟨l, rfl, hl⟩ := List.map_eq_singleton_iff.1 hls
  exact Modifies.unique ((Clause.keyword?_of_word hl).trans (by decide))

theorem reads_autoIncrement {word : String} (h : word = "AUTO_INCREMENT" ∨ word = "AUTOINCREMENT") :
    Reads Stops (' ' :: word.toList) (Modifies withNumbering) := by
  have hplain : Dialect.isPlain word = true := by
    rcases h with rfl | rfl
    · decide
    · decide
  refine ((Reads.plainWord hplain).after_gap (Or.inl rfl)).mono ?_
  rintro ls ⟨l, rfl, hl, -⟩
  refine Modifies.autoIncrement ?_
  rcases h with rfl | rfl
  · exact Or.inl ((Clause.keyword?_of_word hl).trans (by decide))
  · exact Or.inr ((Clause.keyword?_of_word hl).trans (by decide))

theorem reads_one : Reads Stops ['1'] (Tokens [.number]) := by
  refine (@Reads.token _ [] _ .number fun tail htail afterWord => ?_).mono ?_
  · exact (scan_append htail (by simp) (by cases afterWord <;> rfl)).2.1
  · rintro ls ⟨l, rfl, hl, -⟩
    rw [Tokens, List.map_singleton, hl]

theorem reads_identity :
    Reads Stops (' ' :: "IDENTITY(1,1)".toList) (Modifies withNumbering) := by
  have hword := Reads.words ["IDENTITY"] (by decide)
  have hpair := (reads_one.tokens_append Reads.comma fun tail _ => stops_cons (by decide) _)
    |>.tokens_append reads_one fun _ _ => trivial
  have hgroup := (Reads.leftParen.append hpair fun _ _ => trivial).append Reads.rightParen
    fun tail _ => stops_cons (by decide) _
  have hclause := (hword.append hgroup fun tail _ => stops_cons (by decide) _).weaken
    fun tail (_ : Stops tail) => trivial
  refine hclause.mono ?_
  rintro ls ⟨word, _, rfl, hword, _, right, rfl, ⟨left, inner, rfl, hleft, hinner⟩, hright⟩
  obtain ⟨l, rfl, hl⟩ := List.map_eq_singleton_iff.1 hword
  obtain ⟨l', rfl, hl'⟩ := List.map_eq_singleton_iff.1 hleft
  obtain ⟨r, rfl, hr⟩ := List.map_eq_singleton_iff.1 hright
  have hinside : inner.IsInside := by
    obtain ⟨a, _, rfl, ha, htail⟩ := List.map_eq_cons_iff.1 hinner
    obtain ⟨b, c, rfl, hb, hc⟩ := eq_pair_of_tokens htail
    constructor
    · simp [Clause.isBalanced, ha, hb, hc]
    · simp [ha, hb, hc]
  exact Modifies.identity ((Clause.keyword?_of_word hl).trans (by decide)) hl' hr hinside

/-- A fragment is contained wherever it stands. -/
theorem IsFragment.isContained {c ls : Clause} (h : IsFragment text c)
    (hls : Tokens (c.map Lexeme.token) ls) : ls.IsContained := by
  constructor
  · constructor
    · rw [Clause.isBalanced_congr hls]
      exact h.balanced
    · intro l hl
      have hmem : l.token ∈ c.map Lexeme.token := hls ▸ List.mem_map_of_mem hl
      obtain ⟨m, hm, heq⟩ := List.mem_map.1 hmem
      rw [← heq]
      exact h.tokens m hm
  · exact h.noComma.congr Clause.NoComma.congr hls.symm

theorem IsFragment.isEmpty {c : Clause} (h : IsFragment text c) : text.isEmpty = false := by
  obtain ⟨d, ds, hds, -⟩ := h.sharpText
  rw [String.isEmpty_eq_false_iff]
  rintro rfl
  simp at hds

/-- A default is read back. -/
theorem reads_default {value : String} (h : IsDefaultText value) :
    Reads Stops (' ' :: ("DEFAULT " ++ value).toList)
      (Modifies fun column => { column with defaultValue := some value }) := by
  obtain ⟨m, c, hfragment, hmodifier⟩ := h
  have hclause := (Reads.words ["DEFAULT"] (by decide)).append hfragment.reads
    fun tail _ => stops_cons (by decide) _
  rw [String.toList_append]
  refine hclause.mono ?_
  rintro ls ⟨word, value', rfl, hword, htokens, htext⟩
  obtain ⟨l, rfl, hl⟩ := List.map_eq_singleton_iff.1 hword
  obtain ⟨m', c', rfl, hm, hc⟩ := List.map_eq_cons_iff.1 htokens
  have hcontained := hfragment.isContained htokens
  have hdefault := Modifies.default ((Clause.keyword?_of_word hl).trans (by decide)) hcontained
    htext ((hm ▸ hmodifier).congr Clause.NoModifier.congr hc.symm)
  simp only [withDefault, hfragment.isEmpty] at hdefault
  exact hdefault

end Pieces

/-! ## Types -/

/-- A type that a script keeps: a serial type, or a text that is the type of a column and spells no
serial type. -/
def IsColumnType (type : String) : Prop :=
  (∃ kind : Serial, type = kind.spelling) ∨ (IsTypeText type ∧ Serial.ofType? type = none)

namespace Column

open Clause

/-- The clause is a type and modifiers that change a column in a certain way. -/
def IsTyped (type : String) (f : Column → Column) (c : Clause) : Prop :=
  ∃ a b : Clause, c = a ++ b ∧ a ≠ [] ∧ a.text = type ∧ a.IsContained ∧ a.Outside NoModifier 0 ∧
    Modifies f b

namespace IsTyped

variable {type : String} {f g : Column → Column} {c c' : Clause}

theorem isContained (h : IsTyped type f c) : c.IsContained := by
  obtain ⟨a, b, rfl, -, -, ha, -, hb⟩ := h
  exact ha.append hb.contained

theorem append (h : IsTyped type f c) (h' : Modifies g c') : IsTyped type (g ∘ f) (c ++ c') := by
  obtain ⟨a, b, rfl, hne, htext, hcontained, hmodifier, hb⟩ := h
  exact ⟨a, b ++ c', List.append_assoc a b c', hne, htext, hcontained, hmodifier, hb.append h'⟩

/-- A name in front of a type and modifiers makes a column. -/
theorem ofClause_eq (h : IsTyped type f c) {l : Lexeme} {name : String} (hl : l.name? = some name) :
    ofClause (l :: c) = .ok (f { name, dataType := type }) := by
  obtain ⟨a, b, rfl, hne, rfl, hcontained, hmodifier, hb⟩ := h
  exact hb.toAlters.ofClause_eq hl hne hcontained.balanced hmodifier

end IsTyped

/-- A column with a type, numbered automatically or not, has another type in the schema. -/
def Stores (type : String) (isAutoIncrement : Bool) (stored : String) : Prop :=
  ∀ column : Column, column.dataType = type → column.isAutoIncrement = isAutoIncrement →
    column.storedType = stored

theorem stores_self (type : String) : Stores type false type := by
  rintro column rfl hauto
  rw [storedType, hauto]
  rfl

theorem stores_serial {type : String} {kind : Serial} (h : serialOf? type = some kind) :
    Stores type true kind.spelling := by
  rintro column rfl hauto
  rw [storedType, hauto, h]
  rfl

end Column

section Types

open Column

theorem reads_wordType {word : String} (hplain : Dialect.isPlain word = true)
    (hword : Keyword.ofWord? word = none) :
    Reads Stops (' ' :: word.toList) (IsTyped word id) := by
  refine ((Reads.plainWord hplain).after_gap (Or.inl rfl)).mono ?_
  rintro ls ⟨l, rfl, hl, htext⟩
  have hinner : Clause.isInner l.token = true := by
    rw [hl]
    rfl
  refine ⟨[l], [], rfl, by simp, ?_, Clause.IsContained.nil.cons hinner, ?_, Modifies.nil⟩
  · rw [Clause.text, htext, Clause.textAfter, String.append_empty]
  · rw [Clause.Outside, if_neg (by simp [hl]), if_neg (by simp [hl])]
    refine ⟨fun _ => ?_, trivial⟩
    have hkeyword : l.keyword? = none := (Clause.keyword?_of_word hl).trans hword
    simp [Clause.NoModifier, Clause.startsModifier, Lexeme.isAny, Lexeme.isKeyword, hkeyword]

theorem reads_typeText {type : String} (h : IsTypeText type) :
    Reads Stops (' ' :: type.toList) (IsTyped type id) := by
  obtain ⟨c, hfragment, hmodifier⟩ := h
  refine hfragment.reads.mono ?_
  rintro ls ⟨htokens, htext⟩
  refine ⟨ls, [], (List.append_nil ls).symm, ?_, htext, hfragment.isContained htokens,
    hmodifier.congr Clause.NoModifier.congr htokens.symm, Modifies.nil⟩
  rintro rfl
  exact hfragment.ne_nil (List.map_eq_nil_iff.1 htokens.symm)

/-- A type with a modifier behind it. -/
theorem reads_numberedType {type word text : String} (htype : type = word ++ " " ++ text)
    (hplain : Dialect.isPlain word = true) (hword : Keyword.ofWord? word = none)
    (h : Reads Stops (' ' :: text.toList) (Modifies withNumbering)) :
    Reads Stops (' ' :: type.toList)
      (IsTyped word withNumbering) := by
  have htext : ' ' :: type.toList = (' ' :: word.toList) ++ (' ' :: text.toList) := by
    rw [htype, String.toList_append, String.toList_append, List.append_assoc]
    rfl
  rw [htext]
  refine ((reads_wordType hplain hword).append h fun tail _ => stops_cons (by decide) _).mono ?_
  rintro ls ⟨a, b, rfl, ha, hb⟩
  exact ha.append hb

/-- A serial type is read back from whatever a dialect says for it. -/
theorem reads_serialType (d : Dialect) (kind : Serial) :
    ∃ type auto, Stores type auto kind.spelling ∧
      Reads Stops (' ' :: (d.serialType kind).toList)
        (IsTyped type (if auto then withNumbering else id)) := by
  have hstep := reads_autoIncrement (Or.inl rfl)
  cases d with
  | mySql =>
      cases kind with
      | serial =>
          exact ⟨"INT", true, stores_serial (by decide),
            reads_numberedType (by decide) (by decide) (by decide) hstep⟩
      | bigSerial =>
          exact ⟨"BIGINT", true, stores_serial (by decide),
            reads_numberedType (by decide) (by decide) (by decide) hstep⟩
  | postgreSql | sqlite =>
      cases kind with
      | serial => exact ⟨"SERIAL", false, stores_self _, reads_wordType (by decide) (by decide)⟩
      | bigSerial =>
          exact ⟨"BIGSERIAL", false, stores_self _, reads_wordType (by decide) (by decide)⟩
  | sqlServer =>
      cases kind with
      | serial =>
          exact ⟨"INT", true, stores_serial (by decide),
            reads_numberedType (by decide) (by decide) (by decide) reads_identity⟩
      | bigSerial =>
          exact ⟨"BIGINT", true, stores_serial (by decide),
            reads_numberedType (by decide) (by decide) (by decide) reads_identity⟩

theorem ofType?_spelling (kind : Serial) : Serial.ofType? kind.spelling = some kind := by
  cases kind with
  | serial | bigSerial => decide

theorem reads_renderType (d : Dialect) {stored : String} (h : IsColumnType stored) :
    ∃ type auto, Stores type auto stored ∧
      Reads Stops (' ' :: (d.renderType stored).toList)
        (IsTyped type (if auto then withNumbering else id)) := by
  rcases h with ⟨kind, rfl⟩ | ⟨htext, hserial⟩
  · rw [Dialect.renderType, ofType?_spelling]
    exact reads_serialType d kind
  · obtain ⟨c, hfragment, -⟩ := id htext
    refine ⟨stored, false, stores_self stored, ?_⟩
    rw [Dialect.renderType, hserial, hfragment.sharpText.trimmed]
    exact reads_typeText htext

end Types

end Ddl

open Ddl in
/-- What a script can say about a field. -/
structure Field.IsScriptable (f : Field) : Prop where
  name : ∀ word ∈ ["FULLTEXT", "SPATIAL", "EXCLUDE", "PERIOD"], Text.sameName f.name word = false
  dataType : IsColumnType f.dataType
  default : ∀ value ∈ f.defaultValue, IsDefaultText value

namespace Ddl

open Lexer

/-! ## The whole clause -/

section Clauses

open Column Script

variable {f : Field}

/-- A serial column that is the whole key is spelled in a way of its own by one dialect only. -/
theorem serialKey_eq {d : Dialect} {key : SerialKey} (h : d.profile.serialKey = some key) :
    key = ⟨"INTEGER", "AUTOINCREMENT"⟩ := by
  cases d with
  | mySql | postgreSql | sqlServer => cases h
  | sqlite => exact (Option.some.inj h).symm

theorem dataType_eq_spelling {type : String} {kind : Serial} (h : IsColumnType type)
    (hkind : Serial.ofType? type = some kind) : type = kind.spelling := by
  rcases h with ⟨kind', rfl⟩ | ⟨-, hserial⟩
  · rw [ofType?_spelling] at hkind
    rw [Option.some.inj hkind]
  · rw [hserial] at hkind
    cases hkind

/-- The type of a column is read back together with the words for its key. -/
theorem reads_keyed (d : Dialect) (keyCount : Nat) (h : IsColumnType f.dataType) :
    ∃ type auto g, Stores type auto f.dataType ∧
      Reads Stops
        ((' ' :: (ColumnDefinition.ofField d keyCount f).dataType.toList) ++
          ((flag (f.isPrimaryKey && keyCount == 1) "PRIMARY KEY").toList ++
            (spaced (ColumnDefinition.ofField d keyCount f).keySuffix).toList)) (IsTyped type g) ∧
      ∀ name, g { name, dataType := type } =
        { name, dataType := type, isPrimaryKey := f.isPrimaryKey && keyCount == 1,
          isAutoIncrement := auto } := by
  have hflag := reads_flag reads_primaryKey (f.isPrimaryKey && keyCount == 1)
  rw [ColumnDefinition.ofField]
  dsimp only
  generalize (f.isPrimaryKey && keyCount == 1) = isSole at hflag ⊢
  cases hkey : (if (isSole && Serial.ofType? f.dataType == some .serial) = true then
      d.profile.serialKey else none) with
  | none =>
      obtain ⟨type, auto, hstores, hread⟩ := reads_renderType d h
      have hpiece := hflag.append reads_spaced_none fun tail htail => (stops_spaced _).append htail
      have hclause := hread.append hpiece fun tail htail => by
        rw [List.append_assoc]
        exact (stops_flag _ _).append ((stops_spaced _).append htail)
      rw [Option.map_none, Option.getD_none, Option.map_none]
      refine ⟨type, auto, (id ∘ if isSole then withKey else id) ∘ if auto then withNumbering else id,
        hstores, hclause.mono ?_, ?_⟩
      · rintro ls ⟨a, _, rfl, ha, b, c, rfl, hb, hc⟩
        exact ha.append (hb.append hc)
      · intro name
        cases isSole with
        | false | true =>
          cases auto with
          | false | true => rfl
  | some key =>
      by_cases hserial : (isSole && Serial.ofType? f.dataType == some .serial) = true
      · rw [if_pos hserial] at hkey
        rw [Bool.and_eq_true, beq_iff_eq] at hserial
        obtain ⟨rfl, hkind⟩ := hserial
        obtain rfl := serialKey_eq hkey
        have hstores : Stores "INTEGER" true f.dataType := by
          rw [dataType_eq_spelling h hkind]
          exact stores_serial (by decide)
        have hpiece := hflag.append (reads_spaced (reads_autoIncrement (Or.inr rfl)))
          fun tail htail => (stops_spaced _).append htail
        have hclause := (@reads_wordType "INTEGER" (by decide) (by decide)).append hpiece
          fun tail htail => by
            rw [List.append_assoc]
            exact (stops_flag _ _).append ((stops_spaced _).append htail)
        rw [Option.map_some, Option.getD_some, Option.map_some]
        refine ⟨"INTEGER", true, (withNumbering ∘ withKey) ∘ id, hstores, hclause.mono ?_,
          fun name => rfl⟩
        rintro ls ⟨a, _, rfl, ha, b, c, rfl, hb, hc⟩
        exact ha.append (hb.append hc)
      · rw [if_neg hserial] at hkey
        cases hkey

theorem reads_defaultValue (h : ∀ value ∈ f.defaultValue, IsDefaultText value) :
    ∃ g, Reads Stops
        (spaced (((f.defaultValue.filter fun value => !Text.isBlankText value).map
          Text.trimmed).map ("DEFAULT " ++ ·))).toList (Modifies g) ∧
      ∀ column : Column, column.defaultValue = none →
        g column = { column with defaultValue := f.defaultValue } := by
  cases hvalue : f.defaultValue with
  | none =>
      refine ⟨id, reads_spaced_none, ?_⟩
      intro column hcolumn
      rw [← hcolumn]
      rfl
  | some value =>
      have hdefault := h value hvalue
      obtain ⟨l, c, hfragment, -⟩ := id hdefault
      rw [Option.filter_some, hfragment.sharpText.not_isBlankText, Bool.not_false, if_pos rfl,
        Option.map_some, hfragment.sharpText.trimmed, Option.map_some]
      exact ⟨_, reads_spaced (reads_default hdefault), fun _ _ => rfl⟩

/-- The words that keep a clause from being a column. -/
def clauseStarts : List Keyword :=
  [.constraint, .primary, .foreign, .unique, .check, .fulltext, .spatial, .key, .index, .exclude,
    .like, .period]

theorem ofClause?_eq_none {l : Lexeme} (h : ∀ k, l.keyword? = some k → k ∉ clauseStarts)
    (c : Clause) : TableConstraint.ofClause? (l :: c) = none := by
  have hne : ∀ k ∈ clauseStarts, l.keyword? ≠ some k := fun k hk hl => h k hl hk
  have hignored : TableConstraint.isIgnored (l :: c) = false := by
    rw [TableConstraint.isIgnored]
    split
    all_goals first
      | rfl
      | next hl => exact absurd hl (hne _ (by decide))
  have hbody : TableConstraint.body? (l :: c) = none := by
    rw [TableConstraint.body?, Clause.after?_cons_ne (hne _ (by decide)),
      Clause.after?_cons_ne (hne _ (by decide)), Clause.after?_cons_ne (hne _ (by decide))]
  rw [TableConstraint.ofClause?, Clause.after?_cons_ne (hne _ (by decide)), hbody, hignored]
  rfl

theorem not_clauseStart (h : f.IsScriptable) {k : Keyword}
    (hk : (nameToken f.name).keyword? = some k) : k ∉ clauseStarts := by
  have hreserved := keyword?_nameToken hk
  obtain ⟨spelling, hspelling, hsame⟩ := sameName_of_keyword?_nameToken hk
  have hloose : ∀ p ∈ Keyword.spellings, p.1 ∈ clauseStarts → p.1 ∉ reservedStarts →
      p.2 ∈ ["FULLTEXT", "SPATIAL", "EXCLUDE", "PERIOD"] := by decide
  intro hstart
  have hname := h.name spelling (hloose _ hspelling hstart hreserved)
  rw [hname] at hsame
  cases hsame

/-- The clause defines a column like a field. -/
structure Defines (f : Field) (isKey : Bool) (c : Clause) : Prop where
  contained : c.IsContained
  ne_nil : c ≠ []
  ofClause?_eq : TableConstraint.ofClause? c = none
  column : ∃ column, Column.ofClause c = .ok column ∧ column.name = f.name ∧
    column.reference = none ∧
    ∀ id, column.toField id = { f.clearReference with id, isPrimaryKey := isKey }

theorem toList_renderColumn (d : Dialect) (keyCount : Nat) (f : Field) :
    (renderColumn d (ColumnDefinition.ofField d keyCount f)).toList =
      ' ' :: ' ' :: ((d.quote f.name).toList ++
        ((' ' :: (ColumnDefinition.ofField d keyCount f).dataType.toList) ++
          ((flag (f.isPrimaryKey && keyCount == 1) "PRIMARY KEY").toList ++
            (spaced (ColumnDefinition.ofField d keyCount f).keySuffix).toList) ++
          ((flag f.isNotNull "NOT NULL").toList ++ ((flag f.isUnique "UNIQUE").toList ++
            (spaced (((f.defaultValue.filter fun value => !Text.isBlankText value).map
              Text.trimmed).map ("DEFAULT " ++ ·))).toList)))) := by
  have hindent : "  ".toList = [' ', ' '] := by decide
  have hgap : " ".toList = [' '] := by decide
  unfold renderColumn
  simp only [String.toList_append, hindent, hgap, List.append_assoc, List.cons_append,
    List.nil_append]
  rfl

/-- The clause of a column is read back. -/
theorem reads_renderColumn (d : Dialect) (keyCount : Nat) (h : f.IsScriptable) :
    Reads Stops (renderColumn d (ColumnDefinition.ofField d keyCount f)).toList
      (Defines f (f.isPrimaryKey && keyCount == 1)) := by
  obtain ⟨type, auto, g, hstores, hkeyed, hg⟩ := reads_keyed d keyCount h.dataType
  obtain ⟨g', hdefault, hg'⟩ := reads_defaultValue h.default
  have hunique := (reads_flag reads_unique f.isUnique).append hdefault
    fun tail htail => (stops_spaced _).append htail
  have hflags := (reads_flag reads_notNull f.isNotNull).append hunique
    fun tail htail => by
      rw [List.append_assoc]
      exact (stops_flag _ _).append ((stops_spaced _).append htail)
  have hcolumn := hkeyed.append hflags fun tail htail => by
    rw [List.append_assoc, List.append_assoc]
    exact (stops_flag _ _).append ((stops_flag _ _).append ((stops_spaced _).append htail))
  have hclause := (((reads_quote d f.name).append hcolumn fun tail htail =>
    stops_cons (by decide) _).after_gap (c := ' ') (Or.inl rfl)).after_gap (c := ' ') (Or.inl rfl)
  rw [toList_renderColumn]
  refine hclause.mono ?_
  rintro ls ⟨name, _, rfl, hname, a, _, rfl, ha, b, _, rfl, hb, c, e, rfl, hc, he⟩
  obtain ⟨l, rfl, hl⟩ := List.map_eq_singleton_iff.1 hname
  have htyped := ha.append (hb.append (hc.append he))
  have hlname : l.name? = some f.name := (congrArg Token.name? hl).trans (name?_nameToken _)
  have hinner : Clause.isInner l.token = true := by
    rw [hl]
    exact isInner_nameToken _
  refine ⟨htyped.isContained.cons hinner, List.cons_ne_nil _ _, ?_, ?_⟩
  · refine ofClause?_eq_none ?_ _
    intro k hk
    rw [Lexeme.keyword?, hl] at hk
    exact not_clauseStart h hk
  · refine ⟨_, htyped.ofClause_eq hlname, ?_⟩
    have hcolumn : (((g' ∘ if f.isUnique then withUnique else id) ∘
        if f.isNotNull then withNotNull else id) ∘ g) { name := f.name, dataType := type } =
        { name := f.name, dataType := type, isPrimaryKey := f.isPrimaryKey && keyCount == 1,
          isNotNull := f.isNotNull, isUnique := f.isUnique, defaultValue := f.defaultValue,
          isAutoIncrement := auto } := by
      rw [Function.comp_apply, hg, Function.comp_apply, Function.comp_apply, hg']
      · cases f.isNotNull with
        | false | true =>
          cases f.isUnique with
          | false | true => rfl
      · cases f.isNotNull with
        | false | true =>
          cases f.isUnique with
          | false | true => rfl
    rw [hcolumn]
    refine ⟨rfl, rfl, fun id => ?_⟩
    rw [Column.toField, hstores _ rfl rfl]
    rfl

end Clauses

end Ddl

end EntityRelation
