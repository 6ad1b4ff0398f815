import EntityRelation.Proofs.Ddl.ColumnReading
import EntityRelation.Proofs.Ddl.ModifierOrder
import EntityRelation.Proofs.Ddl.SourceText
import EntityRelation.Script.Basic

/-!
# Columns that are numbered automatically

Whatever words a dialect has for it, a modifier that numbers a column only sets a mark, and the mark
commutes with everything that the other modifiers say (`Column.modifiers_withNumbering`). What the
mark comes to is left to the type: an integer type out of a short list becomes a serial type, and
with every other type the modifier is lost (`Column.ofClause_numbered`).
-/

namespace EntityRelation

/-! ## Serial columns in a script -/

/-- The definition has the words that a dialect has for a serial column. -/
def ColumnDefinition.IsSerial (d : Dialect) (kind : Serial) (c : ColumnDefinition) : Prop :=
  (c.dataType = d.serialType kind ∧ c.keySuffix = none) ∨
    ∃ words, kind = .serial ∧ d.profile.serialKey = some words ∧ c.dataType = words.dataType ∧
      c.keySuffix = some words.suffix

theorem ColumnDefinition.isSerial_ofField {f : Field} {kind : Serial}
    (h : f.dataType = kind.spelling) (d : Dialect) (keyCount : Nat) :
    (ofField d keyCount f).IsSerial d kind := by
  have hkind : Serial.ofType? f.dataType = some kind := by
    rw [h, Ddl.ofType?_spelling]
  have hrender : d.renderType f.dataType = d.serialType kind := by
    rw [Dialect.renderType, hkind]
  rw [IsSerial, ofField]
  dsimp only
  rw [hkind, hrender]
  split
  · next hsole =>
    rw [Bool.and_eq_true] at hsole
    have hserial : kind = .serial := by simpa using hsole.2
    cases hwords : d.profile.serialKey with
    | none => exact .inl ⟨rfl, rfl⟩
    | some words => exact .inr ⟨words, hserial, rfl, rfl, rfl⟩
  · exact .inl ⟨rfl, rfl⟩

namespace Ddl

open Clause

/-! ## Integer types -/

namespace Column

/-- The names of the integer types that become a serial type. -/
def integerWords : Serial → List String
  | .serial => ["INT", "INTEGER", "INT4", "MEDIUMINT", "SERIAL"]
  | .bigSerial => ["BIGINT", "INT8", "BIGSERIAL"]

/-- The text is the name of an integer type in any case, alone or with a blank or a group behind
it. -/
def IsIntegerType (kind : Serial) (type : String) : Prop :=
  ∃ word rest : List Char, type.toList = word ++ rest ∧
    (∀ c ∈ word, Text.isBlank c = false ∧ c ≠ '(') ∧
    (∀ c ∈ rest.head?, Text.isBlank c = true ∨ c = '(') ∧
    Text.asciiUpper (String.ofList word) ∈ integerWords kind

/-- The first word of a type is what stands before a blank or a group. -/
theorem takeWhile_type {word rest : List Char}
    (hword : ∀ c ∈ word, Text.isBlank c = false ∧ c ≠ '(')
    (hrest : ∀ c ∈ rest.head?, Text.isBlank c = true ∨ c = '(') :
    (word ++ rest).takeWhile (fun c => !(Text.isBlank c || c = '(')) = word := by
  have hnone : rest.takeWhile (fun c => !(Text.isBlank c || c = '(')) = [] := by
    cases rest with
    | nil => rfl
    | cons c rest =>
        have hc : Text.isBlank c = true ∨ c = '(' := hrest c rfl
        exact List.takeWhile_cons_of_neg (by rcases hc with hc | rfl <;> simp [*])
  rw [List.takeWhile_append_of_pos fun c hc => by simpa using hword c hc, hnone, List.append_nil]

theorem serialOf?_eq_some_iff {type : String} {kind : Serial} :
    serialOf? type = some kind ↔ IsIntegerType kind type := by
  let inWord : Char → Bool := fun c => !(Text.isBlank c || c = '(')
  constructor
  · intro h
    refine ⟨type.toList.takeWhile inWord, type.toList.dropWhile inWord,
      List.takeWhile_append_dropWhile.symm, fun c hc => ?_, fun c hc => ?_, ?_⟩
    · simpa [inWord] using List.mem_takeWhile_imp hc
    · have hstop := List.head?_dropWhile_not inWord type.toList
      rw [hc] at hstop
      simpa [inWord, or_iff_not_imp_left] using hstop
    · rw [serialOf?] at h
      split at h
      case h_9 => cases h
      all_goals
        next hword =>
        obtain rfl := Option.some.inj h
        rw [hword]
        decide
  · rintro ⟨word, rest, htype, hword, hrest, hmem⟩
    rw [serialOf?, htype, takeWhile_type hword hrest]
    cases kind with
    | serial =>
        simp only [integerWords, List.mem_cons, List.not_mem_nil, or_false] at hmem
        rcases hmem with hmem | hmem | hmem | hmem | hmem <;> simp only [hmem]
    | bigSerial =>
        simp only [integerWords, List.mem_cons, List.not_mem_nil, or_false] at hmem
        rcases hmem with hmem | hmem | hmem <;> simp only [hmem]

end Column

/-! ## Modifiers -/

section Spellings

variable {c s : Char} {l : Lexeme} {k : Keyword} {spelling : String}

/-- A character with the lower case of an ASCII capital has this capital for its upper case. -/
theorem upperChar_of_toLower_eq (hs : s.isUpper = true) (h : c.toLower = s.toLower) :
    Text.upperChar c = [s] := by
  have hcapital : s.toNat < 128 := by
    have hle : s.toNat ≤ 90 := (of_decide_eq_true hs).2
    omega
  have hascii : c.toNat < 128 := by
    by_contra hc
    have hsame : c.toLower = c := by
      refine dif_neg fun hupper => ?_
      have hle : c.toNat ≤ 90 := hupper.2
      omega
    have hlower : s.toLower.toNat < 128 :=
      Text.ascii_cases (P := fun s => s.toLower.toNat < 128) (by decide) hcapital
    rw [← h, hsame] at hlower
    exact hc hlower
  have hall : ∀ n < 128, ∀ m < 128, (Char.ofNat m).isUpper = true →
      (Char.ofNat n).toLower = (Char.ofNat m).toLower →
        Text.upperChar (Char.ofNat n) = [Char.ofNat m] := by
    decide +kernel
  have hboth := hall c.toNat hascii s.toNat hcapital
  rw [Char.ofNat_toNat, Char.ofNat_toNat] at hboth
  exact hboth hs h

theorem toUpper_of_map_toLower {cs capitals : List Char}
    (hupper : ∀ c ∈ capitals, c.isUpper = true)
    (h : cs.map Char.toLower = capitals.map Char.toLower) : Text.toUpper cs = capitals := by
  induction capitals generalizing cs with
  | nil =>
      rw [List.map_eq_nil_iff.1 h]
      rfl
  | cons s capitals ih =>
      obtain ⟨c, cs, rfl, hc, hcs⟩ := List.map_eq_cons_iff.1 h
      rw [Text.toUpper, List.flatMap_cons, upperChar_of_toLower_eq (hupper s List.mem_cons_self) hc]
      exact congrArg (s :: ·) (ih (fun s hs => hupper s (List.mem_cons_of_mem _ hs)) hcs)

/-- A word with a spelling that no keyword has is no keyword. -/
theorem isSpelled_eq_false_of_keyword? (hl : l.keyword? = some k)
    (hupper : spelling.toList.all Char.isUpper = true)
    (hnone : ∀ p ∈ Keyword.spellings, p.2 ≠ spelling) : l.isSpelled spelling = false := by
  obtain ⟨value, htoken⟩ := isWord_of_keyword? hl
  rw [Lexeme.keyword?, htoken] at hl
  rw [Lexeme.isSpelled, htoken, Bool.eq_false_iff]
  intro hsame
  refine hnone _ (exists_spelling hl) ?_
  rw [toUpper_of_map_toLower (List.all_eq_true.1 hupper) (beq_iff_eq.1 hsame), String.ofList_toList]

end Spellings

/-- A lexeme of some kind, which may be missing. -/
def IsOptional (p : Lexeme → Bool) (c : Clause) : Prop :=
  c = [] ∨ ∃ l, p l = true ∧ c = [l]

/-- Whether a lexeme says that the values of a computed column are kept, or that they are not. -/
def keepsValues (l : Lexeme) : Bool :=
  l.isAny [.stored, .virtual] || l.isSpelled "PERSISTED"

/-- The lexemes of a modifier that numbers a column automatically. -/
inductive IsNumbering : Clause → Prop where
  /-- `AUTO_INCREMENT` or `AUTOINCREMENT` -/
  | word {l : Lexeme} (hl : l.keyword? = some .autoIncrement ∨ l.keyword? = some .autoincrement) :
      IsNumbering [l]
  /-- `IDENTITY`, with arguments or without -/
  | identity {l : Lexeme} {arguments : Clause} (hl : l.keyword? = some .identity)
      (harguments : IsOptionalGroup arguments) : IsNumbering (l :: arguments)
  /-- `GENERATED ALWAYS AS IDENTITY`, with arguments or without -/
  | generatedAlways {l always as identity : Lexeme} {arguments : Clause}
      (hl : l.keyword? = some .generated) (halways : always.keyword? = some .always)
      (has : as.keyword? = some .asWord) (hidentity : identity.keyword? = some .identity)
      (harguments : IsOptionalGroup arguments) :
      IsNumbering (l :: always :: as :: identity :: arguments)
  /-- `GENERATED BY DEFAULT AS IDENTITY`, with arguments or without -/
  | generatedByDefault {l by' default as identity : Lexeme} {arguments : Clause}
      (hl : l.keyword? = some .generated) (hby : by'.keyword? = some .byWord)
      (hdefault : default.keyword? = some .defaultWord) (has : as.keyword? = some .asWord)
      (hidentity : identity.keyword? = some .identity) (harguments : IsOptionalGroup arguments) :
      IsNumbering (l :: by' :: default :: as :: identity :: arguments)

/-- The lexemes of a modifier of a column. -/
inductive IsColumnModifier : Clause → Prop where
  | complete {t : Trait} {c : Clause} (h : IsModifier t c) : IsColumnModifier c
  | numbering {c : Clause} (h : IsNumbering c) : IsColumnModifier c
  /-- `UNIQUE KEY` -/
  | uniqueKey {l m : Lexeme} (hl : l.keyword? = some .unique) (hm : m.keyword? = some .key) :
      IsColumnModifier [l, m]
  /-- `AS` and an expression -/
  | computed {l : Lexeme} {group kept : Clause} (hl : l.keyword? = some .asWord)
      (hgroup : IsGroup group) (hkept : IsOptional keepsValues kept) :
      IsColumnModifier (l :: (group ++ kept))
  /-- `GENERATED ALWAYS AS` and an expression -/
  | generated {l always as : Lexeme} {group kept : Clause} (hl : l.keyword? = some .generated)
      (halways : always.keyword? = some .always) (has : as.keyword? = some .asWord)
      (hgroup : IsGroup group) (hkept : IsOptional (Lexeme.isAny · [.stored, .virtual]) kept) :
      IsColumnModifier (l :: always :: as :: (group ++ kept))
  /-- `ON UPDATE` or `ON DELETE`, and a call -/
  | call {l event m : Lexeme} {group : Clause} (hl : l.keyword? = some .on)
      (hevent : event.isAny [.update, .delete] = true) (hm : m.isAny [.setWord, .no] = false)
      (hgroup : IsGroup group) : IsColumnModifier (l :: event :: m :: group)

variable {l m : Lexeme} {c rest group kept : Clause}

theorem IsNumbering.alters (h : IsNumbering c) : Column.Alters Column.withNumbering c := by
  cases h with
  | word hl => exact .autoIncrement hl
  | identity hl harguments => exact .identity hl harguments
  | generatedAlways hl halways has hidentity harguments =>
      exact .generatedAlways hl halways has hidentity harguments
  | generatedByDefault hl hby hdefault has hidentity harguments =>
      exact .generatedByDefault hl hby hdefault has hidentity harguments

theorem IsGroup.startsWith_eq_false (h : IsGroup c) (k : Keyword) (rest : Clause) :
    (c ++ rest).startsWith k = false := by
  obtain ⟨left, inner, right, rfl, hleft, -⟩ := h
  rw [List.cons_append, List.cons_append, startsWith, Lexeme.isKeyword, Lexeme.keyword?, hleft]
  rfl

theorem IsGroup.skip_eq (h : IsGroup c) (k : Keyword) (rest : Clause) :
    (c ++ rest).skip [k] = c ++ rest := by
  have hstart := h.startsWith_eq_false k rest
  cases hc : c ++ rest with
  | nil => rfl
  | cons l more =>
      rw [hc, startsWith] at hstart
      rw [skip, after?, hstart]
      rfl

namespace Column.Alters

theorem uniqueKey (hl : l.keyword? = some .unique) (hm : m.keyword? = some .key) :
    Alters withUnique [l, m] := by
  refine of_cons hl (by decide) fun column rest _ => ?_
  simp only [modifier, hl, List.singleton_append, skip_cons hm, withUnique]

theorem computed (hl : l.keyword? = some .asWord) (hgroup : IsGroup group)
    (hkept : IsOptional keepsValues kept) : Alters id (l :: (group ++ kept)) := by
  refine of_cons hl (by decide) fun column rest hrest => ?_
  simp only [modifier, hl, skipComputed, List.append_assoc, hgroup.skipGroup_append, id]
  refine congrArg (Prod.mk column) ?_
  rcases hkept with rfl | ⟨l, hkeeps, rfl⟩
  · cases rest with
    | nil => rfl
    | cons l rest =>
        obtain ⟨k, -, hk⟩ := hrest.exists_keyword?
        have hspelled : l.isSpelled "PERSISTED" = false :=
          isSpelled_eq_false_of_keyword? hk (by decide) (by decide +kernel)
        refine if_neg ?_
        rw [hrest.isAny_eq_false (by decide), hspelled]
        exact Bool.false_ne_true
  · exact if_pos hkeeps

theorem generatedComputed {always as : Lexeme} (hl : l.keyword? = some .generated)
    (halways : always.keyword? = some .always) (has : as.keyword? = some .asWord)
    (hgroup : IsGroup group) (hkept : IsOptional (Lexeme.isAny · [.stored, .virtual]) kept) :
    Alters id (l :: always :: as :: (group ++ kept)) := by
  refine of_cons hl (by decide) fun column rest hrest => ?_
  have hskip : skipAny [.stored, .virtual] (kept ++ rest) = rest := by
    rcases hkept with rfl | ⟨l, hany, rfl⟩
    · exact skipAny_of_fresh hrest (by decide)
    · exact if_pos hany
  simp only [modifier, hl, readGenerated, List.cons_append, List.append_assoc, skip_cons halways,
    skip_cons_of_ne has (by decide : Keyword.asWord ≠ .byWord), after?_cons has, after?,
    hgroup.startsWith_eq_false, Bool.false_eq_true, if_false, hgroup.skip_eq,
    hgroup.skipGroup_append, hskip, id]

theorem call {event : Lexeme} (hl : l.keyword? = some .on)
    (hevent : event.isAny [.update, .delete] = true) (hm : m.isAny [.setWord, .no] = false)
    (hgroup : IsGroup group) : Alters id (l :: event :: m :: group) := by
  refine of_cons hl (by decide) fun column rest _ => ?_
  simp only [modifier, hl, skipAction, List.cons_append, skipAny, hevent, if_true, hm,
    Bool.false_eq_true, if_false, hgroup.skipGroup_append, id]

end Column.Alters

/-- A modifier is read as a whole. -/
theorem IsColumnModifier.exists_alters (h : IsColumnModifier c) : ∃ f, Column.Alters f c := by
  cases h with
  | complete h => exact ⟨_, h.alters⟩
  | numbering h => exact ⟨_, h.alters⟩
  | uniqueKey hl hm => exact ⟨_, .uniqueKey hl hm⟩
  | computed hl hgroup hkept => exact ⟨_, .computed hl hgroup hkept⟩
  | generated hl halways has hgroup hkept =>
      exact ⟨_, .generatedComputed hl halways has hgroup hkept⟩
  | call hl hevent hm hgroup => exact ⟨_, .call hl hevent hm hgroup⟩

theorem exists_alters_flatten {modifiers : List Clause}
    (h : ∀ c ∈ modifiers, IsColumnModifier c) : ∃ f, Column.Alters f modifiers.flatten := by
  induction modifiers with
  | nil => exact ⟨id, .nil⟩
  | cons c rest ih =>
      obtain ⟨f, hf⟩ := (h c List.mem_cons_self).exists_alters
      obtain ⟨g, hg⟩ := ih fun c hc => h c (List.mem_cons_of_mem _ hc)
      exact ⟨g ∘ f, hf.append hg⟩

/-! ## The mark of a numbered column -/

namespace Column

/-- The mark commutes with a modifier. -/
theorem modifier_withNumbering (column : Column) (l : Lexeme) (rest : Clause) :
    column.withNumbering.modifier l rest =
      ((column.modifier l rest).1.withNumbering, (column.modifier l rest).2) := by
  have hdefault : ∀ value, column.withNumbering.withDefault value =
      (column.withDefault value).withNumbering := by
    intro value
    rw [withDefault, withDefault]
    split
    · rfl
    · rfl
  have hreference : column.withNumbering.readReference rest =
      ((column.readReference rest).1.withNumbering, (column.readReference rest).2) := by
    rw [readReference, readReference]
    split
    · rfl
    · split
      · rfl
      · rfl
  have hgenerated : column.withNumbering.readGenerated rest =
      ((column.readGenerated rest).1.withNumbering, (column.readGenerated rest).2) := by
    rw [readGenerated, readGenerated]
    dsimp only
    split
    · rfl
    · dsimp only
      split
      · rfl
      · rfl
  unfold modifier
  split
  case h_2 =>
    split
    · rfl
    · rfl
  case h_4 => rw [hdefault]
  case h_5 => exact hreference
  case h_9 => exact hgenerated
  case h_17 =>
    split
    · rfl
    · split
      · rfl
      · rfl
  all_goals rfl

/-- The mark commutes with the modifiers of a column. -/
theorem modifiers_withNumbering (column : Column) (c : Clause) :
    modifiers column.withNumbering c = (modifiers column c).withNumbering := by
  fun_induction modifiers column c with
  | case1 column => rw [modifiers]
  | case2 column l rest ih => rw [modifiers_cons, modifier_withNumbering, ih]

variable {f : Column → Column}

theorem Alters.apply_withNumbering (h : Alters f c) (column : Column) :
    f column.withNumbering = (f column).withNumbering := by
  rw [← h.modifiers_of_fresh, modifiers_withNumbering, h.modifiers_of_fresh]

theorem Alters.dataType_apply (h : Alters f c) (column : Column) :
    (f column).dataType = column.dataType := by
  rw [← h.modifiers_of_fresh, dataType_modifiers]

theorem storedType_of_serialOf?_eq_none {column : Column} (h : serialOf? column.dataType = none) :
    column.storedType = column.dataType := by
  rw [storedType, h, ite_self]

section Numbered

variable {name : String} {type numbering : Clause} {before after : List Clause}

/-- A modifier that numbers a column adds just the mark to what the others say. -/
theorem ofClause_withNumbering (hl : l.name? = some name) (hne : type ≠ [])
    (hbalanced : type.isBalanced 0 = true) (htype : type.Outside NoModifier 0)
    (hnumbering : IsNumbering numbering) (hothers : ∀ c ∈ before ++ after, IsColumnModifier c) :
    ∃ plain, plain.dataType = type.text ∧
      ofClause (l :: (type ++ (before ++ after).flatten)) = .ok plain ∧
      ofClause (l :: (type ++ (before ++ numbering :: after).flatten)) =
        .ok plain.withNumbering := by
  obtain ⟨f, hf⟩ := exists_alters_flatten fun c hc => hothers c (List.mem_append_left after hc)
  obtain ⟨g, hg⟩ := exists_alters_flatten fun c hc => hothers c (List.mem_append_right before hc)
  have hplain := (hf.append hg).ofClause_eq hl hne hbalanced htype
  have hnumbered := (hf.append (hnumbering.alters.append hg)).ofClause_eq hl hne hbalanced htype
  refine ⟨(g ∘ f) { name, dataType := type.text }, (hf.append hg).dataType_apply _, ?_, ?_⟩
  · rw [List.flatten_append, hplain]
  · rw [List.flatten_append, List.flatten_cons, hnumbered]
    exact congrArg Except.ok (hg.apply_withNumbering _)

/-- A column with a modifier that numbers it, wherever it stands among the others. If the type is an
integer type, the field has the serial type, and a script of any dialect has the words for it again.
With any other type the field is the one that the definition gives without the modifier. -/
theorem ofClause_numbered (hl : l.name? = some name) (hne : type ≠ [])
    (hbalanced : type.isBalanced 0 = true) (htype : type.Outside NoModifier 0)
    (hnumbering : IsNumbering numbering) (hothers : ∀ c ∈ before ++ after, IsColumnModifier c) :
    ∃ column plain,
      ofClause (l :: (type ++ (before ++ numbering :: after).flatten)) = .ok column ∧
      ofClause (l :: (type ++ (before ++ after).flatten)) = .ok plain ∧
      (∀ kind, IsIntegerType kind type.text → ∀ id,
        (column.toField id).dataType = kind.spelling ∧
          ∀ d keyCount, (ColumnDefinition.ofField d keyCount (column.toField id)).IsSerial d kind) ∧
      ((∀ kind, ¬ IsIntegerType kind type.text) → ∀ id,
        (column.toField id).dataType = type.text ∧ column.toField id = plain.toField id) := by
  obtain ⟨plain, hdataType, hplain, hnumbered⟩ :=
    ofClause_withNumbering hl hne hbalanced htype hnumbering hothers
  have htype' : plain.withNumbering.dataType = type.text := hdataType
  refine ⟨plain.withNumbering, plain, hnumbered, hplain, fun kind hkind id => ?_,
    fun hother id => ?_⟩
  · have hstored : plain.withNumbering.storedType = kind.spelling :=
      stores_serial (serialOf?_eq_some_iff.2 hkind) _ htype' rfl
    have hserial : (plain.withNumbering.toField id).dataType = kind.spelling := by
      rw [toField, hstored]
    exact ⟨hserial, ColumnDefinition.isSerial_ofField hserial⟩
  · have hnone : serialOf? type.text = none := by
      rw [Option.eq_none_iff_forall_ne_some]
      exact fun kind hkind => hother kind (serialOf?_eq_some_iff.1 hkind)
    have hplainType : plain.storedType = type.text :=
      (storedType_of_serialOf?_eq_none (hdataType ▸ hnone)).trans hdataType
    have hnumberedType : plain.withNumbering.storedType = type.text :=
      (storedType_of_serialOf?_eq_none (htype' ▸ hnone)).trans htype'
    rw [toField, toField, hplainType, hnumberedType, withNumbering]
    exact ⟨rfl, rfl⟩

/-- `id`, a type, `NOT NULL`, some modifiers and `PRIMARY KEY` -/
def idColumn (type : String) (modifiers : List Clause) : Clause :=
  wordLexeme "id" :: ([wordLexeme type] ++ ([["NOT", "NULL"].map wordLexeme] ++
    (modifiers ++ [["PRIMARY", "KEY"].map wordLexeme])).flatten)

/-- `IDENTITY` makes an integer serial, and says nothing about a small integer. -/
theorem ofClause_numbered_identity :
    (∃ column, ofClause (idColumn "INT" [[wordLexeme "IDENTITY"]]) = .ok column ∧
      ∀ id, (column.toField id).dataType = "SERIAL") ∧
    ∃ column plain, ofClause (idColumn "SMALLINT" [[wordLexeme "IDENTITY"]]) = .ok column ∧
      ofClause (idColumn "SMALLINT" []) = .ok plain ∧
      ∀ id, column.toField id = plain.toField id := by
  have hidentity : IsNumbering [wordLexeme "IDENTITY"] := .identity (by decide) (.inl rfl)
  have hothers : ∀ c ∈ [["NOT", "NULL"].map wordLexeme] ++ [["PRIMARY", "KEY"].map wordLexeme],
      IsColumnModifier c := by
    intro c hc
    simp only [List.cons_append, List.nil_append, List.mem_cons, List.not_mem_nil, or_false] at hc
    rcases hc with rfl | rfl
    · exact .complete (.notNull (by decide) (by decide))
    · exact .complete (.primaryKey (by decide) (by decide))
  have hint : IsIntegerType .serial (Clause.text [wordLexeme "INT"]) :=
    serialOf?_eq_some_iff.1 (by decide)
  have hsmall : ∀ kind, ¬ IsIntegerType kind (Clause.text [wordLexeme "SMALLINT"]) := by
    intro kind hkind
    cases kind with
    | serial | bigSerial => exact absurd (serialOf?_eq_some_iff.2 hkind) (by decide)
  constructor
  · obtain ⟨column, -, hcolumn, -, hserial, -⟩ := @ofClause_numbered (wordLexeme "id") _
      [wordLexeme "INT"] _ _ _ rfl (by decide) (by decide) (by decide) hidentity hothers
    exact ⟨column, hcolumn, fun id => (hserial .serial hint id).1⟩
  · obtain ⟨column, plain, hcolumn, hplain, -, hlost⟩ := @ofClause_numbered (wordLexeme "id") _
      [wordLexeme "SMALLINT"] _ _ _ rfl (by decide) (by decide) (by decide) hidentity hothers
    exact ⟨column, plain, hcolumn, hplain, fun id => (hlost hsmall id).2⟩

/-- The types of the columns in the schema of a script. -/
def importedTypes (sql : String) : List String :=
  match importScript sql with
  | .ok report => report.schema.entities.flatMap fun e => e.fields.map (·.dataType)
  | .error _ => []

/-- An integer is serial after the import, and a small integer is not. -/
theorem importedTypes_numbered_small :
    importedTypes "CREATE TABLE t (id INT AUTO_INCREMENT PRIMARY KEY);" = ["SERIAL"] ∧
      importedTypes "CREATE TABLE t (id SMALLINT AUTO_INCREMENT PRIMARY KEY);" = ["SMALLINT"] := by
  decide +kernel

end Numbered

end Column

end Ddl

end EntityRelation
