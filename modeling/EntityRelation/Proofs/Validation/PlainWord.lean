import EntityRelation.Proofs.Text.Numeral
import EntityRelation.Validation.Name

/-!
# Plain words

`sanitize?` sends a text through five filters: characters that do not fit fall away, then digits at
the front, then repeated underscores, then underscores at the ends, and last what is too long. No
filter takes the last letter away, so there is a word exactly when the text has a letter
(`any_isAlpha_uncutWord`). What an earlier filter has settled a later one can undo in two ways only:
a digit comes to the front when the underscores before it go (`HidesDigit`), and an underscore comes
to the end when the word is cut there (`CutAtUnderscore`). All other words are plain words, which
break no rule and stay as they are when they go through the filters again
(`sanitize?_isPlainWord_iff`).
-/

namespace EntityRelation

/-- A character of a plain word: a lower case letter, a digit or an underscore, all of ASCII. -/
def IsWordChar (c : Char) : Prop :=
  c.isLower = true ∨ c.isDigit = true ∨ c = '_'

instance (c : Char) : Decidable (IsWordChar c) :=
  inferInstanceAs (Decidable (_ ∨ _))

/-- The characters that a text keeps, in the form in which they stand in a plain word. -/
def keptChars (text : String) : List Char :=
  (Text.trim text.toList).filterMap plainChar?

/-- The plain word of a text before it is cut to its greatest length. -/
def uncutWord (text : String) : List Char :=
  trimUnderscores (collapseUnderscores ((keptChars text).dropWhile Char.isDigit))

theorem sanitize?_eq (text : String) : sanitize? text =
    if (uncutWord text).any Char.isAlpha then
      some (String.ofList ((uncutWord text).take maxNameLength))
    else none := rfl

/-- Behind the digits at the front, and the underscores that follow them, stands another digit. -/
def HidesDigit (text : String) : Prop :=
  ∃ c ∈ (((keptChars text).dropWhile Char.isDigit).dropWhile (· == '_')).head?, c.isDigit = true

/-- The last character for which there is room is an underscore. -/
def CutAtUnderscore (text : String) : Prop :=
  (uncutWord text)[maxNameLength - 1]? = some '_'

/-- A word that is plain in every respect: it breaks no rule for names and no rule of style, and it
is its own plain word. It may still be a reserved word, since those are quoted. -/
structure IsPlainWord (word : String) : Prop where
  nonempty : word ≠ ""
  short : word.utf8ByteSize ≤ maxNameLength
  characters : ∀ c ∈ word.toList, IsWordChar c
  start : ∀ c ∈ word.toList.head?, c.isDigit = false
  letter : ∃ c ∈ word.toList, c.isAlpha = true
  errors : (checkName word .minimal (some maxNameLength)).errors = []
  warnings : ∀ fault ∈ (checkName word .minimal (some maxNameLength)).warnings,
    fault = .reserved word
  stable : sanitize? word = some word

/-! ## Characters -/

section Characters

variable {c d : Char}

theorem toNat_lt_of_isAlpha (h : c.isAlpha = true) : c.toNat < 128 := by
  rcases Bool.or_eq_true_iff.1 h with hupper | hlower
  · have hle : c.val ≤ 'Z'.val := (of_decide_eq_true hupper).2
    exact Nat.lt_of_le_of_lt (UInt32.le_iff_toNat_le.1 hle) (by decide)
  · have hle : c.val ≤ 'z'.val := of_decide_eq_true (Bool.and_eq_true_iff.1 hlower).2
    exact Nat.lt_of_le_of_lt (UInt32.le_iff_toNat_le.1 hle) (by decide)

theorem IsWordChar.toNat_lt (h : IsWordChar c) : c.toNat < 128 := by
  rcases h with h | h | rfl
  · exact toNat_lt_of_isAlpha (Bool.or_eq_true_iff.2 (Or.inr h))
  · exact Text.toNat_lt_of_isDigit h
  · decide

theorem IsWordChar.plainChar? (h : IsWordChar c) : plainChar? c = some c :=
  Text.ascii_cases (P := fun c => IsWordChar c → EntityRelation.plainChar? c = some c)
    (by decide) h.toNat_lt h

theorem IsWordChar.isBlank (h : IsWordChar c) : Text.isBlank c = false :=
  Text.ascii_cases (P := fun c => IsWordChar c → Text.isBlank c = false) (by decide) h.toNat_lt h

theorem IsWordChar.isPlainChar (h : IsWordChar c) : isPlainChar c = true :=
  Text.ascii_cases (P := fun c => IsWordChar c → EntityRelation.isPlainChar c = true)
    (by decide) h.toNat_lt h

theorem IsWordChar.utf8Size (h : IsWordChar c) : c.utf8Size = 1 :=
  Text.ascii_cases (P := fun c => IsWordChar c → c.utf8Size = 1) (by decide) h.toNat_lt h

/-- What is neither a digit nor an underscore is a letter. -/
theorem IsWordChar.isAlpha (h : IsWordChar c) (hdigit : c.isDigit = false) (hunderscore : c ≠ '_') :
    c.isAlpha = true := by
  rcases h with h | h | h
  · exact Bool.or_eq_true_iff.2 (Or.inr h)
  · rw [h] at hdigit
    cases hdigit
  · exact absurd h hunderscore

theorem not_isBlank_of_isAlpha (h : c.isAlpha = true) : Text.isBlank c = false :=
  Text.ascii_cases (P := fun c => c.isAlpha = true → Text.isBlank c = false) (by decide)
    (toNat_lt_of_isAlpha h) h

theorem toNat_lt_of_plainChar? (h : plainChar? c = some d) : c.toNat < 128 := by
  rw [plainChar?] at h
  split at h
  · next hplain =>
    simp only [isPlainChar, Char.isAlphanum, Bool.or_eq_true, decide_eq_true_eq] at hplain
    rcases hplain with (hplain | hplain) | rfl
    · exact toNat_lt_of_isAlpha hplain
    · exact Text.toNat_lt_of_isDigit hplain
    · decide
  · split at h
    · next hgap =>
      simp only [Bool.or_eq_true, decide_eq_true_eq] at hgap
      rcases hgap with rfl | rfl <;> decide
    · cases h

/-- A character that is kept becomes a character of a plain word. -/
theorem isWordChar_of_plainChar? (h : plainChar? c = some d) : IsWordChar d := by
  have hall := Text.ascii_cases (P := fun c => (plainChar? c).all (fun d => decide (IsWordChar d)))
    (by decide) (toNat_lt_of_plainChar? h)
  rw [h] at hall
  exact of_decide_eq_true hall

/-- Letters are kept, and nothing else becomes one. -/
theorem any_isAlpha_plainChar? (c : Char) : (plainChar? c).any Char.isAlpha = c.isAlpha := by
  by_cases hlt : c.toNat < 128
  · exact Text.ascii_cases (P := fun c => (plainChar? c).any Char.isAlpha = c.isAlpha) (by decide)
      hlt
  · have halpha : c.isAlpha = false := Bool.eq_false_iff.2 fun h => hlt (toNat_lt_of_isAlpha h)
    have hnone : plainChar? c = none :=
      Option.eq_none_iff_forall_not_mem.2 fun _ hd => hlt (toNat_lt_of_plainChar? hd)
    rw [hnone, halpha]
    rfl

end Characters

/-! ## The filters -/

section Filters

variable {cs : List Char}

theorem any_dropWhile_of_disjoint {α : Type} {p q : α → Bool} (h : ∀ a, q a = true → p a = false)
    (as : List α) : (as.dropWhile p).any q = as.any q := by
  induction as with
  | nil => rfl
  | cons a rest ih =>
      rw [List.dropWhile_cons, List.any_cons]
      split
      · next hp =>
        have hq : q a = false := Bool.eq_false_iff.2 fun hq => by simp [h a hq] at hp
        rw [ih, hq, Bool.false_or]
      · rw [List.any_cons]

theorem any_isAlpha_trim (cs : List Char) :
    (Text.trim cs).any Char.isAlpha = cs.any Char.isAlpha := by
  rw [Text.trim, Text.trimEnd, Text.trimStart, List.any_reverse,
    any_dropWhile_of_disjoint fun _ => not_isBlank_of_isAlpha, List.any_reverse,
    any_dropWhile_of_disjoint fun _ => not_isBlank_of_isAlpha]

theorem any_isAlpha_trimUnderscores (cs : List Char) :
    (trimUnderscores cs).any Char.isAlpha = cs.any Char.isAlpha := by
  have hdisjoint : ∀ c : Char, c.isAlpha = true → (c == '_') = false := by
    rintro c hc
    rw [beq_eq_false_iff_ne]
    rintro rfl
    cases hc
  rw [trimUnderscores, List.any_reverse, any_dropWhile_of_disjoint hdisjoint, List.any_reverse,
    any_dropWhile_of_disjoint hdisjoint]

theorem mem_collapseUnderscores {c : Char} : c ∈ collapseUnderscores cs ↔ c ∈ cs := by
  fun_induction collapseUnderscores cs with
  | case1 rest ih => rw [ih, List.mem_cons, List.mem_cons, List.mem_cons, or_self_left]
  | case2 d rest _ ih => rw [List.mem_cons, List.mem_cons, ih]
  | case3 => exact Iff.rfl

theorem head?_collapseUnderscores (cs : List Char) : (collapseUnderscores cs).head? = cs.head? := by
  fun_induction collapseUnderscores cs with
  | case1 rest ih => exact ih
  | case2 => rfl
  | case3 => rfl

theorem dropWhile_collapseUnderscores (cs : List Char) :
    (collapseUnderscores cs).dropWhile (· == '_') =
      collapseUnderscores (cs.dropWhile (· == '_')) := by
  fun_induction collapseUnderscores cs with
  | case1 rest ih => exact ih
  | case2 c rest hrun ih =>
      by_cases hc : c = '_'
      · subst hc
        rw [List.dropWhile_cons_of_pos rfl, ih, List.dropWhile_cons_of_pos rfl]
      · have hne : ¬ (c == '_') = true := by simpa using hc
        rw [List.dropWhile_cons, if_neg hne, List.dropWhile_cons, if_neg hne, collapseUnderscores]
        exact hrun
  | case3 => rfl

/-- Two underscores in a row. -/
theorem hasDoubleUnderscore_iff : hasDoubleUnderscore cs = true ↔ ['_', '_'] <:+: cs := by
  fun_induction hasDoubleUnderscore cs with
  | case1 rest => exact iff_of_true rfl ⟨[], rest, rfl⟩
  | case2 c rest hrun ih =>
      rw [ih, List.infix_cons_iff, or_iff_right]
      rintro ⟨tail, htail⟩
      obtain ⟨rfl, rfl⟩ := List.cons.inj htail
      exact hrun tail rfl rfl
  | case3 => simp

theorem not_infix_collapseUnderscores (cs : List Char) :
    ¬ ['_', '_'] <:+: collapseUnderscores cs := by
  fun_induction collapseUnderscores cs with
  | case1 rest ih => exact ih
  | case2 c rest hrun ih =>
      rw [List.infix_cons_iff, not_or]
      refine ⟨?_, ih⟩
      rintro ⟨tail, htail⟩
      obtain ⟨rfl, hnext⟩ := List.cons.inj htail
      have hhead := head?_collapseUnderscores rest
      rw [← hnext] at hhead
      obtain ⟨more, rfl⟩ := List.head?_eq_some_iff.1 hhead.symm
      exact hrun more rfl rfl
  | case3 => simp

theorem collapseUnderscores_eq_self (h : ¬ ['_', '_'] <:+: cs) : collapseUnderscores cs = cs := by
  fun_induction collapseUnderscores cs with
  | case1 rest => exact absurd ⟨[], rest, rfl⟩ h
  | case2 c rest _ ih => rw [ih fun hrest => h (hrest.trans (List.suffix_cons c rest).isInfix)]
  | case3 => rfl

theorem any_isAlpha_collapseUnderscores (cs : List Char) :
    (collapseUnderscores cs).any Char.isAlpha = cs.any Char.isAlpha := by
  rw [Bool.eq_iff_iff, List.any_eq_true, List.any_eq_true]
  simp only [mem_collapseUnderscores]

theorem isInfix_trimUnderscores (cs : List Char) : trimUnderscores cs <:+: cs :=
  (List.rdropWhile_prefix (· == '_') _).isInfix.trans
    (List.dropWhile_suffix (· == '_')).isInfix

theorem trimUnderscores_eq_self (hfirst : cs.head? ≠ some '_') (hlast : cs.getLast? ≠ some '_') :
    trimUnderscores cs = cs := by
  have hstart : cs.dropWhile (· == '_') = cs := by
    rw [List.dropWhile_eq_self_iff]
    intro hlen
    simpa [List.head?_eq_getElem?, hlen] using hfirst
  change (cs.dropWhile (· == '_')).rdropWhile (· == '_') = cs
  rw [hstart, List.rdropWhile_eq_self_iff]
  intro hne
  simpa [List.getLast?_eq_some_getLast hne] using hlast

end Filters

/-! ## The word before it is cut -/

section UncutWord

variable {text : String}

/-- The filters take no letter away for good. -/
theorem any_isAlpha_uncutWord (text : String) :
    (uncutWord text).any Char.isAlpha = text.toList.any Char.isAlpha := by
  have hdigit : ∀ c : Char, c.isAlpha = true → c.isDigit = false := fun c hc =>
    Text.ascii_cases (P := fun c => c.isAlpha = true → c.isDigit = false) (by decide)
      (toNat_lt_of_isAlpha hc) hc
  calc (uncutWord text).any Char.isAlpha
      = (keptChars text).any Char.isAlpha := by
        rw [uncutWord, any_isAlpha_trimUnderscores, any_isAlpha_collapseUnderscores,
          any_dropWhile_of_disjoint hdigit]
    _ = (Text.trim text.toList).any fun c => (plainChar? c).any Char.isAlpha := by
        rw [keptChars, List.any_filterMap]
        rfl
    _ = text.toList.any Char.isAlpha := by
        simp only [any_isAlpha_plainChar?]
        exact any_isAlpha_trim _

theorem isWordChar_of_mem_uncutWord {c : Char} (h : c ∈ uncutWord text) : IsWordChar c := by
  have hcollapsed := (isInfix_trimUnderscores _).subset h
  have hkept := (List.dropWhile_sublist _).subset (mem_collapseUnderscores.1 hcollapsed)
  obtain ⟨d, -, hd⟩ := List.mem_filterMap.1 hkept
  exact isWordChar_of_plainChar? hd

theorem not_infix_uncutWord (text : String) : ¬ ['_', '_'] <:+: uncutWord text :=
  fun h => not_infix_collapseUnderscores _ (h.trans (isInfix_trimUnderscores _))

theorem head?_uncutWord_ne (text : String) : (uncutWord text).head? ≠ some '_' := by
  intro h
  have hne : ('_' == '_') = false := Text.head?_strip (p := (· == '_')) h
  cases hne

theorem getLast?_uncutWord_ne (text : String) : (uncutWord text).getLast? ≠ some '_' := by
  intro h
  have hne : ('_' == '_') = false := Text.getLast?_strip (p := (· == '_')) h
  cases hne

/-- The cut word ends in an underscore only where it is cut. -/
theorem getLast?_take_uncutWord (text : String) :
    ((uncutWord text).take maxNameLength).getLast? = some '_' ↔ CutAtUnderscore text := by
  rw [List.getLast?_take, if_neg (by decide), Option.or_eq_some_iff, CutAtUnderscore,
    or_iff_left fun h => getLast?_uncutWord_ne text h.2]

/-- A digit stands in front exactly when it has been hidden by underscores. -/
theorem hidesDigit_iff {first : Char} (h : (uncutWord text).head? = some first) :
    HidesDigit text ↔ first.isDigit = true := by
  have hhead : (((keptChars text).dropWhile Char.isDigit).dropWhile (· == '_')).head? =
      some first := by
    rw [← head?_collapseUnderscores, ← dropWhile_collapseUnderscores]
    obtain ⟨tail, htail⟩ : uncutWord text <+:
        (collapseUnderscores ((keptChars text).dropWhile Char.isDigit)).dropWhile (· == '_') :=
      List.rdropWhile_prefix (· == '_') _
    rw [← htail, List.head?_append, h]
    rfl
  simp [HidesDigit, hhead]

end UncutWord

/-! ## Plain words -/

section PlainWord

variable {cs : List Char}

theorem utf8ByteSize_of_isWordChar (h : ∀ c ∈ cs, IsWordChar c) :
    (String.ofList cs).utf8ByteSize = cs.length := by
  induction cs with
  | nil => rfl
  | cons c rest ih =>
      obtain ⟨hc, hrest⟩ := List.forall_mem_cons.1 h
      rw [String.ofList_cons, String.utf8ByteSize_append, String.utf8ByteSize_singleton,
        hc.utf8Size, ih hrest, List.length_cons, Nat.add_comm]

theorem trim_of_isWordChar (h : ∀ c ∈ cs, IsWordChar c) : Text.trim cs = cs :=
  (Text.trim_eq_self_iff cs).2 ⟨fun c hc => (h c (List.mem_of_mem_head? hc)).isBlank,
    fun c hc => (h c (List.mem_of_getLast? hc)).isBlank⟩

/-- A word of plain characters is checked as it stands. -/
theorem checkName_of_isWordChar (h : ∀ c ∈ cs, IsWordChar c) (hne : cs ≠ [])
    (maxLength : Option Nat) :
    checkName (String.ofList cs) .minimal maxLength =
      ⟨basicFaults (String.ofList cs) maxLength,
        NameFault.when (isReserved (String.ofList cs)) (.reserved (String.ofList cs)) ++
          styleFaults (String.ofList cs)⟩ := by
  have htrimmed : Text.trimmed (String.ofList cs) = String.ofList cs := by
    rw [Text.trimmed, String.toList_ofList, trim_of_isWordChar h]
  have hempty : (String.ofList cs).isEmpty = false := by
    rw [← Bool.not_eq_true, String.isEmpty_iff, ← String.toList_inj, String.toList_ofList]
    exact hne
  rw [checkName, htrimmed, hempty]
  rfl

theorem uncutWord_of_isWordChar (h : ∀ c ∈ cs, IsWordChar c)
    (hdigit : ∀ c ∈ cs.head?, c.isDigit = false) (hrun : ¬ ['_', '_'] <:+: cs)
    (hfirst : cs.head? ≠ some '_') (hlast : cs.getLast? ≠ some '_') :
    uncutWord (String.ofList cs) = cs := by
  have hkept : keptChars (String.ofList cs) = cs := by
    rw [keptChars, String.toList_ofList, trim_of_isWordChar h,
      List.filterMap_congr fun c hc => (h c hc).plainChar?, List.filterMap_some]
  have hstart : cs.dropWhile Char.isDigit = cs := by
    rw [List.dropWhile_eq_self_iff]
    intro hlen
    have hnot := hdigit cs[0] (by simp [List.head?_eq_getElem?, hlen])
    simp [hnot]
  rw [uncutWord, hkept, hstart, collapseUnderscores_eq_self hrun,
    trimUnderscores_eq_self hfirst hlast]

/-- A word that starts with a letter, does not end in an underscore and has no two in a row. -/
theorem isPlainWord_ofList (h : ∀ c ∈ cs, IsWordChar c) (hlength : cs.length ≤ maxNameLength)
    {first : Char} (hfirst : cs.head? = some first) (hletter : first.isAlpha = true)
    (hrun : ¬ ['_', '_'] <:+: cs) (hlast : cs.getLast? ≠ some '_') :
    IsPlainWord (String.ofList cs) := by
  have hmem : first ∈ cs := List.mem_of_mem_head? hfirst
  have hne : cs ≠ [] := List.ne_nil_of_mem hmem
  have hdigit : first.isDigit = false :=
    Text.ascii_cases (P := fun c => c.isAlpha = true → c.isDigit = false) (by decide)
      (toNat_lt_of_isAlpha hletter) hletter
  have hunderscore : first ≠ '_' := by
    rintro rfl
    cases hletter
  have hany : cs.any Char.isAlpha = true := List.any_eq_true.2 ⟨first, hmem, hletter⟩
  have hinvalid : cs.filter (!isPlainChar ·) = [] := by
    rw [List.filter_eq_nil_iff]
    intro c hc
    simp [(h c hc).isPlainChar]
  have hdouble : hasDoubleUnderscore cs = false := by
    rw [← Bool.not_eq_true, hasDoubleUnderscore_iff]
    exact hrun
  have hcheck := checkName_of_isWordChar h hne (some maxNameLength)
  constructor
  case nonempty => simpa using hne
  case short => rwa [utf8ByteSize_of_isWordChar h]
  case characters => simpa using h
  case start => simp [hfirst, hdigit]
  case letter => exact ⟨first, by simpa using hmem, hletter⟩
  case errors =>
    rw [hcheck]
    simp [basicFaults, NameFault.when, utf8ByteSize_of_isWordChar h, hlength, hinvalid, hfirst,
      hdigit, hany]
  case warnings =>
    rw [hcheck]
    simp [styleFaults, NameFault.when, hfirst, hunderscore, hlast, hdouble]
  case stable =>
    rw [sanitize?_eq, uncutWord_of_isWordChar h (by simp [hfirst, hdigit]) hrun
      (by simp [hfirst, hunderscore]) hlast, hany, List.take_of_length_le hlength]
    rfl

/-- A plain word does not end in an underscore. -/
theorem IsPlainWord.getLast?_ne (h : ∀ c ∈ cs, IsWordChar c) (hne : cs ≠ [])
    (hplain : IsPlainWord (String.ofList cs)) : cs.getLast? ≠ some '_' := by
  intro hlast
  have hwarning := hplain.warnings .endsWithUnderscore
  rw [checkName_of_isWordChar h hne] at hwarning
  simp [styleFaults, NameFault.when, hlast] at hwarning

end PlainWord

/-- A text without letters has no plain word, and every other one has a word that is not empty, not
too long and made of plain characters. That word is plain in every respect unless its first digit or
last underscore came to stand there only when the filter against it had been passed. -/
theorem sanitize?_isPlainWord_iff (text : String) :
    (sanitize? text = none ↔ ∀ c ∈ text.toList, c.isAlpha = false) ∧
      ∀ word, sanitize? text = some word →
        (word ≠ "" ∧ word.utf8ByteSize ≤ maxNameLength ∧ ∀ c ∈ word.toList, IsWordChar c) ∧
          (IsPlainWord word ↔ ¬ HidesDigit text ∧ ¬ CutAtUnderscore text) := by
  constructor
  · rw [sanitize?_eq, any_isAlpha_uncutWord]
    simp
  · intro word hword
    rw [sanitize?_eq] at hword
    split at hword
    · next hany =>
      obtain rfl := Option.some.inj hword
      obtain ⟨letter, hletter, -⟩ := List.any_eq_true.1 hany
      obtain ⟨first, rest, huncut⟩ := List.exists_cons_of_ne_nil (List.ne_nil_of_mem hletter)
      have hhead : (uncutWord text).head? = some first := by rw [huncut, List.head?_cons]
      have hlast := getLast?_take_uncutWord text
      have hchars : ∀ c ∈ (uncutWord text).take maxNameLength, IsWordChar c := fun c hc =>
        isWordChar_of_mem_uncutWord (List.mem_of_mem_take hc)
      have hlength := List.length_take_le maxNameLength (uncutWord text)
      have hrun : ¬ ['_', '_'] <:+: (uncutWord text).take maxNameLength := fun h =>
        not_infix_uncutWord text (h.trans (List.take_prefix _ _).isInfix)
      have hfirst : ((uncutWord text).take maxNameLength).head? = some first := by
        rw [List.head?_take, if_neg (by decide), hhead]
      generalize (uncutWord text).take maxNameLength = cut at *
      have hmem : first ∈ cut := List.mem_of_mem_head? hfirst
      have hne : cut ≠ [] := List.ne_nil_of_mem hmem
      refine ⟨⟨by simpa using hne, ?_, by simpa using hchars⟩, ?_⟩
      · rwa [utf8ByteSize_of_isWordChar hchars]
      · rw [hidesDigit_iff hhead, ← hlast, Bool.not_eq_true]
        constructor
        · intro hplain
          refine ⟨hplain.start first ?_, hplain.getLast?_ne hchars hne⟩
          rwa [String.toList_ofList]
        · rintro ⟨hdigit, hunderscore⟩
          have hother : first ≠ '_' := by
            rintro rfl
            exact head?_uncutWord_ne text hhead
          exact isPlainWord_ofList hchars hlength hfirst ((hchars first hmem).isAlpha hdigit hother)
            hrun hunderscore
    · cases hword

/-- Blanks, hyphens, digits in front, signs, capitals and an accent. -/
theorem sanitize?_isPlainWord_iff_customer :
    sanitize? " 2nd - Customer__Nämé! " = some "nd_customer_nm" ∧ IsPlainWord "nd_customer_nm" := by
  have hword : sanitize? " 2nd - Customer__Nämé! " = some "nd_customer_nm" := by decide +kernel
  refine ⟨hword, ((sanitize?_isPlainWord_iff _).2 _ hword).2.2 ⟨?_, ?_⟩⟩
  · rintro ⟨first, hfirst, hdigit⟩
    have hletter : (((keptChars " 2nd - Customer__Nämé! ").dropWhile Char.isDigit).dropWhile
        (· == '_')).head? = some 'n' := by
      decide +kernel
    obtain rfl := Option.some.inj (hletter.symm.trans hfirst)
    cases hdigit
  · unfold CutAtUnderscore
    decide +kernel

/-- A digit behind an underscore comes to the front, where the next pass takes it away. -/
theorem not_isPlainWord_hiddenDigit : ¬ ∀ text word, sanitize? text = some word →
    IsPlainWord word := by
  intro h
  have hplain := h "_1a" "1a" (by decide +kernel)
  have hstable : sanitize? "1a" = some "a" := by decide +kernel
  exact absurd (hplain.stable.symm.trans hstable) (by decide)

end EntityRelation
