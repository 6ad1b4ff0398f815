import EntityRelation.Proofs.Ddl.ImportedTables
import EntityRelation.Proofs.Ddl.ScriptTables
import EntityRelation.Proofs.Ddl.Tidy

/-!
# The texts that an import keeps

The type and the default value of a column are parts of the clause that defines it
(`Column.hasTexts_of_ofClause`). The type starts outside all groups, so it can be embedded again when
the parentheses of the clause match. The default value starts there too, unless a modifier before it
has passed unread over the parenthesis that opens a group: then the value takes the closing one
along. No modifier does so in a clause that is `Steady`.
-/

namespace EntityRelation

namespace Ddl

namespace Clause

/-- The words after which a modifier may pass unread over a lexeme. -/
def passingWords : List Keyword :=
  [.constraint, .collate, .comment, .charset, .character, .setWord, .on, .update, .delete, .no]

/-- No group is opened right after a word after which a lexeme may be passed over. -/
def Steady (c : Clause) : Prop :=
  c.startsWithAny passingWords = true → startsGroup c.tail = false

instance : DecidablePred Steady :=
  fun c => inferInstanceAs (Decidable (c.startsWithAny passingWords = true →
    startsGroup c.tail = false))

variable {p : Clause → Prop} {c rest : Clause} {l : Lexeme}

theorem Tidy.startsGroup_eq (hp : ∀ c, p c → Steady c) (h : Tidy p 0 (l :: rest))
    {ks : List Keyword} (hks : ks ⊆ passingWords) (hl : l.isAny ks = true) :
    rest.startsGroup = false := by
  obtain ⟨k, hk, hlk⟩ := List.any_eq_true.1 hl
  refine hp _ (((tidy_other (other_of_isAny hl)).1 h).1 rfl) ?_
  exact List.any_eq_true.2 ⟨k, hks hk, hlk⟩

/-- The lexeme after a word can be passed over. -/
theorem Tidy.drop_argument (hp : ∀ c, p c → Steady c) (h : Tidy p 0 (l :: rest))
    {ks : List Keyword} (hks : ks ⊆ passingWords) (hl : l.isAny ks = true) :
    Tidy p 0 (rest.drop 1) :=
  (h.tail (other_of_isAny hl).1).drop_one (h.startsGroup_eq hp hks hl)

end Clause

namespace Column

open Clause

variable {p : Clause → Prop} {c rest : Clause} {l : Lexeme}

/-! ## Modifiers -/

theorem tidy_readReference (h : Tidy p 0 rest) (column : Column) :
    Tidy p 0 (column.readReference rest).2 := by
  rw [readReference]
  split
  · exact h
  · next hname =>
    have hafter := h.tableName? hname
    split
    · exact hafter
    · next hgroup => exact hafter.group? hgroup

theorem tidy_readGenerated (h : Tidy p 0 rest) (column : Column) :
    Tidy p 0 (column.readGenerated rest).2 := by
  have hskip := (h.skip [.always]).skip [.byWord, .defaultWord]
  rw [readGenerated]
  dsimp only
  split
  · exact hskip
  · next hafter =>
    exact ((hskip.after? hafter).skip [.identity]).skipGroup.skipAny [.stored, .virtual]

theorem ne_leftParen_of_isSpelled {spelling : String} (h : l.isSpelled spelling = true) :
    l.token ≠ .leftParen := by
  intro hleft
  rw [Lexeme.isSpelled, hleft] at h
  cases h

theorem tidy_skipComputed (h : Tidy p 0 rest) : Tidy p 0 (skipComputed rest) := by
  have hgroup := h.skipGroup
  rw [skipComputed]
  split
  · next l more heq =>
    rw [heq] at hgroup
    split
    · next hkept =>
      rw [Bool.or_eq_true] at hkept
      rcases hkept with hany | hspelled
      · exact hgroup.tail (other_of_isAny hany).1
      · exact hgroup.tail (ne_leftParen_of_isSpelled hspelled)
    · exact hgroup
  · exact .nil

theorem tidy_skipAction (hp : ∀ c, p c → Steady c) (h : Tidy p 0 rest)
    (hrest : rest.startsGroup = false) : Tidy p 0 (skipAction rest) := by
  have haction := h.skipAny [.update, .delete]
  have hstarts : startsGroup (rest.skipAny [.update, .delete]) = false := by
    cases rest with
    | nil => rfl
    | cons l rest =>
        rw [Clause.skipAny]
        split
        · next hany => exact h.startsGroup_eq hp (by decide) hany
        · exact hrest
  rw [skipAction]
  split
  · next l more heq =>
    rw [heq] at haction hstarts
    split
    · next hany => exact haction.drop_argument hp (by decide) hany
    · exact (haction.drop_one hstarts).skipGroup
  · exact .nil

theorem startsGroup_of_startsWith {k : Keyword} (h : c.startsWith k = true) :
    c.startsGroup = false := by
  cases c with
  | nil => rfl
  | cons l c =>
      rw [startsGroup, beq_eq_false_iff_ne]
      exact (other_of_keyword? (beq_iff_eq.1 h)).1

theorem tidy_drop_charset (hp : ∀ c, p c → Steady c) (h : Tidy p 0 rest)
    (hrest : rest.startsGroup = false) : Tidy p 0 ((rest.skip [.setWord]).drop 1) := by
  cases rest with
  | nil => exact .nil
  | cons l rest =>
      rw [Clause.skip, Clause.after?]
      split
      · next hset =>
        have hany : l.isAny [.setWord] = true := by simp [Lexeme.isAny, hset]
        exact h.drop_argument hp (by decide) hany
      · exact h.drop_one hrest

theorem isAny_of_keyword? {k : Keyword} {ks : List Keyword} (h : l.keyword? = some k)
    (hk : k ∈ ks) : l.isAny ks = true :=
  List.any_eq_true.2 ⟨k, hk, by rw [Lexeme.isKeyword, h, beq_self_eq_true]⟩

/-- A modifier ends outside all groups. -/
theorem tidy_modifier (hp : ∀ c, p c → Steady c) (h : Tidy p 0 (l :: rest)) (column : Column) :
    Tidy p 0 (column.modifier l rest).2 := by
  have htail : ∀ {k : Keyword}, l.keyword? = some k → Tidy p 0 rest :=
    fun hk => h.tail (other_of_keyword? hk).1
  have hargument : ∀ {k : Keyword}, l.keyword? = some k → k ∈ passingWords →
      rest.startsGroup = false := fun hk hpass =>
    h.startsGroup_eq hp (List.Subset.refl _) (isAny_of_keyword? hk hpass)
  unfold modifier
  split
  case h_1 hk => exact (htail hk).skip [.key]
  case h_2 hk =>
    split
    · next hnull => exact (htail hk).drop_one (startsGroup_of_startsWith hnull)
    · exact htail hk
  case h_3 hk => exact (htail hk).skip [.key]
  case h_4 hk => exact (htail hk).defaultRun_snd
  case h_5 hk => exact tidy_readReference (htail hk) column
  case h_6 hk => exact htail hk
  case h_7 hk => exact htail hk
  case h_8 hk => exact (htail hk).skipGroup
  case h_9 hk => exact tidy_readGenerated (htail hk) column
  case h_10 hk => exact tidy_skipComputed (htail hk)
  case h_11 hk => exact tidy_skipAction hp (htail hk) (hargument hk (by decide))
  case h_16 hk => exact tidy_drop_charset hp (htail hk) (hargument hk (by decide))
  case h_17 =>
    split
    · exact h.skipGroup
    · next hleft =>
      split
      · exact (h.tail hleft).skipGroup
      · exact h.tail hleft
  all_goals
    next hk => exact (htail hk).drop_one (hargument hk (by decide))

/-! ## The type and the default value -/

/-- No modifier but `DEFAULT` changes the default value. -/
theorem defaultValue_modifier (column : Column) (l : Lexeme) (rest : Clause) :
    (column.modifier l rest).1.defaultValue = column.defaultValue ∨
      l.keyword? = some .defaultWord ∧
        (column.modifier l rest).1.defaultValue = some (defaultRun rest).1.text := by
  have hreference : (column.readReference rest).1.defaultValue = column.defaultValue := by
    rw [readReference]
    split
    · rfl
    · split
      · rfl
      · rfl
  have hgenerated : (column.readGenerated rest).1.defaultValue = column.defaultValue := by
    rw [readGenerated]
    dsimp only
    split
    · rfl
    · dsimp only
      split
      · rfl
      · rfl
  unfold modifier
  split
  case h_2 =>
    split
    · exact .inl rfl
    · exact .inl rfl
  case h_4 hk =>
    rw [withDefault]
    split
    · exact .inl rfl
    · exact .inr ⟨hk, rfl⟩
  case h_17 =>
    split
    · exact .inl rfl
    · split
      · exact .inl rfl
      · exact .inl rfl
  all_goals first
    | exact .inl rfl
    | exact .inl hreference
    | exact .inl hgenerated

end Column

/-- The text is that of a part of the clause. If `fits`, the parentheses match in this part and no
comma stands outside its groups. -/
def Clause.CutFrom (c : Clause) (fits : Prop) (text : String) : Prop :=
  ∃ part : Clause, part <:+: c ∧ part.text = text ∧ (fits → part.Tidy Clause.NoComma 0)

/-- What a column definition gives for the type and the default value of a column. -/
structure Clause.HasTexts (c : Clause) (dataType : String) (defaultValue : Option String) :
    Prop where
  dataType : (∃ kind : Serial, dataType = kind.spelling) ∨
    c.CutFrom (c.isBalanced 0 = true) dataType
  defaultValue : ∀ value, defaultValue = some value →
    c.CutFrom (c.isBalanced 0 = true ∧ c.Outside Clause.Steady 0) value

namespace Column

open Clause

variable {whole c : Clause} {fits : Prop}

theorem cutFrom_defaultRun (hc : c <:+ whole) (htidy : fits → Tidy NoComma 0 c) :
    whole.CutFrom fits (defaultRun c).1.text := by
  obtain ⟨front, rfl⟩ := hc
  refine ⟨(defaultRun c).1, ⟨front, (defaultRun c).2, ?_⟩, rfl, fun h => (htidy h).defaultRun_fst⟩
  rw [List.append_assoc, defaultRun_append_defaultRun]

/-- The modifiers of a clause take a default value out of it. -/
theorem cutFrom_modifiers (hc : c <:+ whole)
    (htidy : fits → Tidy (fun c => NoComma c ∧ Steady c) 0 c) {column : Column}
    (hcolumn : ∀ value, column.defaultValue = some value → whole.CutFrom fits value) :
    ∀ value, (modifiers column c).defaultValue = some value → whole.CutFrom fits value := by
  fun_induction modifiers column c with
  | case1 => exact hcolumn
  | case2 column l rest ih =>
      have hrest : rest <:+ whole := (List.suffix_cons l rest).trans hc
      refine ih ((modifier_suffix column l rest).trans hrest)
        (fun h => tidy_modifier (fun _ h => h.2) (htidy h) column) fun value hvalue => ?_
      rcases column.defaultValue_modifier l rest with hsame | ⟨hk, hdefault⟩
      · exact hcolumn value (hsame.symm.trans hvalue)
      · obtain rfl := Option.some.inj (hdefault.symm.trans hvalue)
        exact cutFrom_defaultRun hrest fun h =>
          ((htidy h).mono fun _ h => h.1).tail (other_of_keyword? hk).1

theorem cutFrom_storedType {column : Column} (h : whole.CutFrom fits column.dataType) :
    (∃ kind : Serial, column.storedType = kind.spelling) ∨
      whole.CutFrom fits column.storedType := by
  rw [storedType]
  split
  · split
    · next kind _ => exact .inl ⟨kind, rfl⟩
    · exact .inr h
  · exact .inr h

/-- A column definition takes its texts out of its clause. -/
theorem hasTexts_of_ofClause (hc : c.Outside NoComma 0) {column : Column}
    (h : ofClause c = .ok column) : c.HasTexts column.storedType column.defaultValue := by
  cases c with
  | nil => cases h
  | cons l rest =>
      rw [ofClause] at h
      split at h
      · cases h
      · next name hname =>
        have hl := ne_leftParen_of_name? hname
        dsimp only at h
        split at h
        · cases h
        · obtain rfl := Except.ok.inj h
          constructor
          · refine cutFrom_storedType ?_
            rw [dataType_modifiers]
            refine ⟨(run 0 rest).1, ⟨[l], (run 0 rest).2, ?_⟩, rfl, fun hbalanced => ?_⟩
            · rw [List.append_assoc, run_append_run, List.singleton_append]
            · exact (Tidy.tail ⟨hbalanced, hc⟩ hl).run_fst
          · refine cutFrom_modifiers ((run_suffix 0 rest).trans (List.suffix_cons l rest)) ?_ ?_
            · rintro ⟨hbalanced, hsteady⟩
              exact (Tidy.tail ⟨hbalanced, hc.and hsteady⟩ hl).run_snd
            · exact fun _ hvalue => absurd hvalue (Option.not_mem_none _)

end Column

end Ddl

end EntityRelation
