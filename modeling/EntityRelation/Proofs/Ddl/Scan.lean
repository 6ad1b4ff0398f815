import EntityRelation.Ddl.Lexer
import Mathlib.Data.List.Find
import Mathlib.Data.List.TakeWhile
import Mathlib.Data.Nat.Basic
import Mathlib.Tactic.Common

/-!
# Tokens before a stop

Blanks, parentheses, commas and semicolons belong to no token that starts before them, unless it is
a comment or stands between delimiters. So what `scan` finds at the end of a text it finds as well
when such a character follows. A token neither starts nor ends with a blank.
-/

namespace EntityRelation

namespace Text

/-- The blanks, one by one. -/
def blankChars : List Char :=
  ['\t', '\n', '\x0b', '\x0c', '\r', ' ', '\u0085', '\u00a0', '\u1680', '\u2000', '\u2001',
    '\u2002', '\u2003', '\u2004', '\u2005', '\u2006', '\u2007', '\u2008', '\u2009', '\u200a',
    '\u2028', '\u2029', '\u202f', '\u205f', '\u3000']

theorem mem_blankChars_of_range {c : Char} {first count : Nat}
    (hrange : ∀ k < count, Char.ofNat (first + k) ∈ blankChars) (hlow : first ≤ c.toNat)
    (hhigh : c.toNat < first + count) : c ∈ blankChars := by
  have hmem := hrange (c.toNat - first) (by omega)
  rw [Nat.add_sub_cancel' hlow, Char.ofNat_toNat] at hmem
  exact hmem

theorem mem_blankChars {c : Char} (h : isBlank c = true) : c ∈ blankChars := by
  simp only [isBlank, Bool.or_eq_true, Bool.and_eq_true, decide_eq_true_eq, or_assoc] at h
  rcases h with rfl | ⟨hlow, hhigh⟩ | rfl | rfl | rfl | ⟨hlow, hhigh⟩ | rfl | rfl | rfl | rfl | rfl
  · decide
  · have hlow' : 9 ≤ c.toNat := hlow
    have hhigh' : c.toNat ≤ 13 := hhigh
    exact @mem_blankChars_of_range _ 9 5 (by decide) hlow' (by omega)
  · decide
  · decide
  · decide
  · have hlow' : 0x2000 ≤ c.toNat := hlow
    have hhigh' : c.toNat ≤ 0x200a := hhigh
    exact @mem_blankChars_of_range _ 0x2000 11 (by decide) hlow' (by omega)
  · decide
  · decide
  · decide
  · decide
  · decide

end Text

namespace Ddl

namespace Lexer

/-- The characters that end a token. -/
def stopChars : List Char :=
  [',', ';', '(', ')'] ++ Text.blankChars

/-- A text that is empty or starts with a character that ends a token. -/
def Stops (tail : List Char) : Prop :=
  ∀ d ∈ tail.head?, d ∈ stopChars

/-- The characters that end a token are few, so what none of them is can be computed. -/
theorem forall_stop {p : Char → Bool} (h : (stopChars.all fun d => !p d) = true) :
    ∀ d ∈ stopChars, p d = false := by
  intro d hd
  simpa using List.all_eq_true.1 h d hd

theorem isLetterOrNumeric_stop : ∀ d ∈ stopChars, Text.isLetterOrNumeric d = false :=
  forall_stop (by decide +kernel)

theorem isWordPart_stop : ∀ d ∈ stopChars, isWordPart d = false := by
  intro d hd
  have hd' : (d = '_' || d = '$' || d = '@' || d = '#') = false :=
    forall_stop (p := fun d => d = '_' || d = '$' || d = '@' || d = '#') (by decide) d hd
  simp only [isWordPart, isLetterOrNumeric_stop d hd, Bool.false_or]
  exact hd'

/-- A blank is a stop, so a property that no stop has tells that a character is none. -/
theorem not_isBlank {p : Char → Bool} (hp : ∀ d ∈ stopChars, p d = false) {c : Char}
    (hc : p c = true) : Text.isBlank c = false := by
  by_contra hblank
  rw [Bool.not_eq_false] at hblank
  have := hp c (List.mem_append_right _ (Text.mem_blankChars hblank))
  rw [hc] at this
  exact absurd this (by simp)

theorem stops_nil : Stops [] := by
  simp [Stops]

theorem stops_cons {c : Char} (h : c ∈ stopChars) (tail : List Char) : Stops (c :: tail) := by
  simpa [Stops] using h

theorem Stops.append {cs tail : List Char} (hcs : Stops cs) (h : Stops tail) :
    Stops (cs ++ tail) := by
  cases cs with
  | nil => exact h
  | cons c cs => exact hcs

variable {tail : List Char}

/-- A property that holds of no stop does not hold of the first character after a token. -/
theorem Stops.not_of_head? (h : Stops tail) {p : Char → Bool}
    (hp : ∀ d ∈ stopChars, p d = false) {d : Char} (hd : d ∈ tail.head?) : p d = false :=
  hp d (h d hd)

theorem Stops.takeWhile_eq_nil (h : Stops tail) {p : Char → Bool}
    (hp : ∀ d ∈ stopChars, p d = false) : tail.takeWhile p = [] := by
  cases tail with
  | nil => rfl
  | cons d rest => simp [h.not_of_head? hp (Option.mem_some.2 rfl)]

theorem Stops.takeWhile_append (h : Stops tail) {p : Char → Bool}
    (hp : ∀ d ∈ stopChars, p d = false) (cs : List Char) :
    (cs ++ tail).takeWhile p = cs.takeWhile p := by
  induction cs with
  | nil => exact h.takeWhile_eq_nil hp
  | cons c cs ih =>
      rw [List.cons_append, List.takeWhile_cons, List.takeWhile_cons, ih]

/-- The first character of a text that a stop follows is not one that the stops exclude. -/
theorem Stops.head?_append_beq (h : Stops tail) {c : Char} (hc : c ∉ stopChars)
    (cs : List Char) : ((cs ++ tail).head? == some c) = (cs.head? == some c) := by
  cases cs with
  | nil =>
      cases tail with
      | nil => rfl
      | cons d rest =>
          have hd : d ≠ c := by
            rintro rfl
            exact hc (h d rfl)
          simp [hd]
  | cons d cs => rfl

theorem Stops.head?_append_eq (h : Stops tail) {c : Char} (hc : c ∉ stopChars)
    (cs : List Char) : (cs ++ tail).head? = some c ↔ cs.head? = some c := by
  have hbeq := h.head?_append_beq hc cs
  rw [Bool.eq_iff_iff, beq_iff_eq, beq_iff_eq] at hbeq
  exact hbeq

/-- A token that starts with `c` and goes on with `cs` neither starts nor ends with a blank. -/
structure Sharp (c : Char) (cs : List Char) : Prop where
  first : Text.isBlank c = false
  last : ∀ d ∈ (c :: cs).getLast?, Text.isBlank d = false

theorem Sharp.of_all {c : Char} {cs : List Char} (hc : Text.isBlank c = false)
    (hcs : ∀ d ∈ cs, Text.isBlank d = false) : Sharp c cs := by
  refine ⟨hc, ?_⟩
  intro d hd
  rcases List.mem_cons.1 (List.mem_of_getLast? hd) with rfl | hmem
  · exact hc
  · exact hcs d hmem

theorem Sharp.of_getLast? {c e : Char} {cs : List Char} (hc : Text.isBlank c = false)
    (hlast : cs.getLast? = some e) (he : Text.isBlank e = false) : Sharp c cs := by
  refine ⟨hc, ?_⟩
  intro d hd
  rw [List.getLast?_cons, hlast, Option.getD_some] at hd
  obtain rfl := Option.some.inj hd
  exact he

/-- A text up to its first blank, and the rest of it. -/
theorem exists_split_blank (cs : List Char) :
    ∃ front back, cs = front ++ back ∧ (∀ d ∈ front, Text.isBlank d = false) ∧ Stops back := by
  refine ⟨cs.takeWhile (!Text.isBlank ·), cs.dropWhile (!Text.isBlank ·),
    List.takeWhile_append_dropWhile.symm, ?_, ?_⟩
  · intro d hd
    simpa using List.mem_takeWhile_imp hd
  · intro d hd
    have hblank := List.head?_dropWhile_not (!Text.isBlank ·) cs
    rw [Option.mem_def.1 hd] at hblank
    exact List.mem_append_right _ (Text.mem_blankChars (by simpa using hblank))

/-! ## Texts between delimiters -/

theorem enclosed?_of_ne {close c : Char} (hc : c ≠ close) (rest : List Char) :
    enclosed? close (c :: rest) =
      (enclosed? close rest).map fun (value, n) => (c :: value, n + 1) := by
  cases rest <;> simp [enclosed?, hc]

theorem enclosed?_doubled (close : Char) (more : List Char) :
    enclosed? close (close :: close :: more) =
      (enclosed? close more).map fun (value, n) => (close :: value, n + 2) := by
  simp [enclosed?]

theorem enclosed?_closed {close : Char} {rest : List Char} (h : ∀ d ∈ rest.head?, d ≠ close) :
    enclosed? close (close :: rest) = some ([], 1) := by
  cases rest with
  | nil => simp [enclosed?]
  | cons d more => simp [enclosed?, h d rfl]

theorem Stops.head?_ne (h : Stops tail) {c : Char} (hc : c ∉ stopChars) :
    ∀ d ∈ tail.head?, d ≠ c := by
  rintro d hd rfl
  exact hc (h d hd)

theorem enclosed?_append (h : Stops tail) {close : Char} (hclose : close ∉ stopChars)
    {cs value : List Char} {n : Nat} (hcs : enclosed? close cs = some (value, n)) :
    n ≤ cs.length ∧ (cs.take n).getLast? = some close ∧
      enclosed? close (cs ++ tail) = some (value, n) := by
  induction hlen : cs.length using Nat.strongRecOn generalizing cs value n with
  | ind len ih =>
      cases cs with
      | nil => simp [enclosed?] at hcs
      | cons c rest =>
          subst hlen
          by_cases hc : c = close
          · subst hc
            cases rest with
            | nil =>
                rw [enclosed?_closed (by simp)] at hcs
                obtain ⟨rfl, rfl⟩ := Prod.mk.inj (Option.some.inj hcs)
                exact ⟨Nat.le_refl 1, rfl, enclosed?_closed (h.head?_ne hclose)⟩
            | cons d more =>
                by_cases hd : d = c
                · subst hd
                  rw [enclosed?_doubled] at hcs
                  simp only [Option.map_eq_some_iff, Prod.mk.injEq, Prod.exists] at hcs
                  obtain ⟨inner, k, hinner, rfl, rfl⟩ := hcs
                  obtain ⟨hle, hlast, heq⟩ := ih more.length
                    (by rw [List.length_cons, List.length_cons]; omega) hinner rfl
                  refine ⟨by simpa using hle, ?_, ?_⟩
                  · rw [List.take_succ_cons, List.take_succ_cons, List.getLast?_cons,
                      List.getLast?_cons, hlast]
                    rfl
                  · simp [enclosed?_doubled, heq]
                · have hhead : ∀ x ∈ (d :: more).head?, x ≠ c := by simpa using hd
                  rw [enclosed?_closed hhead] at hcs
                  obtain ⟨rfl, rfl⟩ := Prod.mk.inj (Option.some.inj hcs)
                  exact ⟨by simp, rfl, enclosed?_closed (by simpa using hd)⟩
          · rw [enclosed?_of_ne hc] at hcs
            simp only [Option.map_eq_some_iff, Prod.mk.injEq, Prod.exists] at hcs
            obtain ⟨inner, k, hinner, rfl, rfl⟩ := hcs
            obtain ⟨hle, hlast, heq⟩ := ih rest.length (by simp) hinner rfl
            refine ⟨by simpa using hle, ?_, ?_⟩
            · rw [List.take_succ_cons, List.getLast?_cons, hlast]
              rfl
            · simp [enclosed?_of_ne hc, heq]

theorem escapedWidth?_append (h : Stops tail) {cs : List Char} {n : Nat}
    (hcs : escapedWidth? cs = some n) :
    n ≤ cs.length ∧ (cs.take n).getLast? = some '\x27' ∧
      escapedWidth? (cs ++ tail) = some n := by
  fun_induction escapedWidth? cs generalizing n with
  | case1 => simp at hcs
  | case2 => simp at hcs
  | case3 d more ih =>
      simp only [Option.map_eq_some_iff] at hcs
      obtain ⟨k, hk, rfl⟩ := hcs
      obtain ⟨hle, hlast, heq⟩ := ih hk
      refine ⟨by simpa using hle, ?_, by simp [escapedWidth?, heq]⟩
      rw [List.take_succ_cons, List.take_succ_cons, List.getLast?_cons, List.getLast?_cons, hlast]
      rfl
  | case4 more ih =>
      simp only [Option.map_eq_some_iff] at hcs
      obtain ⟨k, hk, rfl⟩ := hcs
      obtain ⟨hle, hlast, heq⟩ := ih hk
      refine ⟨by simpa using hle, ?_, by simp [escapedWidth?, heq]⟩
      rw [List.take_succ_cons, List.take_succ_cons, List.getLast?_cons, List.getLast?_cons, hlast]
      rfl
  | case5 rest hrest =>
      obtain rfl := Option.some.inj hcs
      refine ⟨by simp, rfl, ?_⟩
      cases rest with
      | nil =>
          cases tail with
          | nil => simp [escapedWidth?]
          | cons d more =>
              have hd := h.head?_ne (c := '\x27') (by decide) d rfl
              simp [escapedWidth?, hd]
      | cons d more =>
          have hd : d ≠ '\x27' := by
            rintro rfl
            exact hrest more rfl
          simp [escapedWidth?, hd]
  | case6 c rest hslash hquote ih =>
      simp only [Option.map_eq_some_iff] at hcs
      obtain ⟨k, hk, rfl⟩ := hcs
      obtain ⟨hle, hlast, heq⟩ := ih hk
      refine ⟨by simpa using hle, ?_, by simp [escapedWidth?, heq]⟩
      rw [List.take_succ_cons, List.getLast?_cons, hlast]
      rfl

theorem isPrefixOf_append {mark cs : List Char} (h : mark.length ≤ cs.length) :
    mark.isPrefixOf (cs ++ tail) = mark.isPrefixOf cs := by
  rw [Bool.eq_iff_iff, List.isPrefixOf_iff_prefix, List.isPrefixOf_iff_prefix]
  constructor
  · intro hfront
    exact List.prefix_of_prefix_length_le hfront (List.prefix_append cs tail) h
  · intro hfront
    exact hfront.trans (List.prefix_append cs tail)

/-- What is found inside a text is found there whatever follows. -/
theorem widthThrough?_append {mark cs : List Char} {n : Nat}
    (hcs : widthThrough? mark cs = some n) :
    mark.length ≤ n ∧ n ≤ cs.length ∧ mark <:+ cs.take n ∧
      widthThrough? mark (cs ++ tail) = some n := by
  induction cs generalizing n with
  | nil => simp [widthThrough?] at hcs
  | cons c rest ih =>
      rw [widthThrough?] at hcs
      split at hcs
      · next hstart =>
        obtain rfl := Option.some.inj hcs
        have hfront := List.isPrefixOf_iff_prefix.1 hstart
        refine ⟨Nat.le_refl _, hfront.length_le, ?_, ?_⟩
        · exact (List.prefix_iff_eq_take.1 hfront) ▸ List.suffix_refl mark
        · rw [List.cons_append, widthThrough?, ← List.cons_append,
            isPrefixOf_append hfront.length_le, if_pos hstart]
      · next hstart =>
        simp only [Option.map_eq_some_iff] at hcs
        obtain ⟨k, hk, rfl⟩ := hcs
        obtain ⟨hmark, hle, hend, heq⟩ := ih hk
        have hlong : mark.length ≤ (c :: rest).length := by
          rw [List.length_cons]
          omega
        refine ⟨Nat.le_succ_of_le hmark, by simpa using hle, ?_, ?_⟩
        · rw [List.take_succ_cons]
          exact hend.trans (List.suffix_cons c _)
        · rw [List.cons_append, widthThrough?, ← List.cons_append, isPrefixOf_append hlong,
            if_neg hstart, heq]
          rfl

/-! ## Numbers, placeholders, words and operators -/

theorem length_takeWhile_le (p : Char → Bool) (cs : List Char) :
    (cs.takeWhile p).length ≤ cs.length :=
  (List.takeWhile_prefix p).length_le

theorem digitsWidth_le (cs : List Char) : digitsWidth cs ≤ cs.length :=
  length_takeWhile_le _ cs

theorem digitsWidth_append (h : Stops tail) (cs : List Char) :
    digitsWidth (cs ++ tail) = digitsWidth cs := by
  rw [digitsWidth, h.takeWhile_append (forall_stop (by decide)), digitsWidth]

/-- The width of a sign. -/
def signWidth (cs : List Char) : Nat :=
  if cs.head? = some '+' ∨ cs.head? = some '-' then 1 else 0

theorem signWidth_le (cs : List Char) : signWidth cs ≤ cs.length := by
  cases cs with
  | nil => simp [signWidth]
  | cons c rest =>
      rw [signWidth]
      split
      · simp
      · simp

theorem signWidth_append (h : Stops tail) (cs : List Char) :
    signWidth (cs ++ tail) = signWidth cs := by
  simp only [signWidth, h.head?_append_eq (c := '+') (by decide),
    h.head?_append_eq (c := '-') (by decide)]

theorem exponentWidth_cons (c : Char) (rest : List Char) :
    exponentWidth (c :: rest) =
      if c = 'e' ∨ c = 'E' then
        if digitsWidth (rest.drop (signWidth rest)) = 0 then 0
        else 1 + signWidth rest + digitsWidth (rest.drop (signWidth rest))
      else 0 := by
  cases rest with
  | nil => simp [exponentWidth, signWidth, digitsWidth]
  | cons d more =>
      by_cases hplus : d = '+'
      · subst hplus
        simp [exponentWidth, signWidth, digitsWidth]
      · by_cases hminus : d = '-'
        · subst hminus
          simp [exponentWidth, signWidth, digitsWidth]
        · simp [exponentWidth, signWidth, digitsWidth, hplus, hminus]

theorem exponentWidth_le (cs : List Char) : exponentWidth cs ≤ cs.length := by
  cases cs with
  | nil => simp [exponentWidth]
  | cons c rest =>
      have hsign := signWidth_le rest
      have hdigits := digitsWidth_le (rest.drop (signWidth rest))
      rw [List.length_drop] at hdigits
      rw [exponentWidth_cons, List.length_cons]
      split
      · split
        · omega
        · omega
      · omega

theorem exponentWidth_append (h : Stops tail) (cs : List Char) :
    exponentWidth (cs ++ tail) = exponentWidth cs := by
  cases cs with
  | nil =>
      cases tail with
      | nil => rfl
      | cons d rest =>
          have hlower := h.head?_ne (c := 'e') (by decide) d rfl
          have hupper := h.head?_ne (c := 'E') (by decide) d rfl
          rw [List.nil_append, exponentWidth_cons, if_neg (by simp [hlower, hupper])]
          rfl
  | cons c rest =>
      rw [List.cons_append, exponentWidth_cons, exponentWidth_cons, signWidth_append h,
        List.drop_append_of_le_length (signWidth_le rest), digitsWidth_append h]

theorem isPrefixOf_append_stop (h : Stops tail) {mark : List Char}
    (hmark : ∀ c ∈ mark, c ∉ stopChars) (cs : List Char) :
    mark.isPrefixOf (cs ++ tail) = mark.isPrefixOf cs := by
  induction mark generalizing cs with
  | nil => simp
  | cons c mark ih =>
      cases cs with
      | nil =>
          cases tail with
          | nil => rfl
          | cons d rest =>
              have hd : c ≠ d := (h.head?_ne (hmark c (by simp)) d rfl).symm
              simp [List.isPrefixOf, hd]
      | cons d cs =>
          simp only [List.cons_append, List.isPrefixOf]
          rw [ih (fun c hc => hmark c (List.mem_cons_of_mem _ hc))]

/-- An operator that starts before a stop ends before it. -/
theorem operatorWidth_append (h : Stops tail) (cs : List Char) :
    operatorWidth (cs ++ tail) = operatorWidth cs := by
  have hoperators : ∀ operator ∈ operators, ∀ c ∈ operator, c ∉ stopChars := by
    have hall : (operators.all fun operator => operator.all fun c => !stopChars.elem c) = true := by
      decide
    intro operator ho c hc
    simpa using List.all_eq_true.1 (List.all_eq_true.1 hall operator ho) c hc
  have hfind : operators.find? (·.isPrefixOf (cs ++ tail)) =
      operators.find? (·.isPrefixOf cs) :=
    List.find?_congr fun operator ho => isPrefixOf_append_stop h (hoperators operator ho) cs
  rw [operatorWidth, hfind, operatorWidth]

theorem operatorWidth_le (c : Char) (rest : List Char) :
    operatorWidth (c :: rest) ≤ rest.length := by
  rw [operatorWidth]
  split
  · next operator hfind =>
    have hfront : operator.isPrefixOf (c :: rest) = true := by
      simpa using List.find?_some hfind
    have hle := (List.isPrefixOf_iff_prefix.1 hfront).length_le
    rw [List.length_cons] at hle
    omega
  · exact Nat.zero_le _

/-- A sign at the beginning of a text takes no more than the text has. -/
theorem signLength_le (c : Char) (cs : List Char) :
    (if cs.head? = some c then 1 else 0) ≤ cs.length := by
  cases cs with
  | nil => simp
  | cons d more =>
      rw [List.length_cons]
      split
      · omega
      · omega

theorem scanNumber_append (h : Stops tail) (c : Char) (rest : List Char) :
    ∃ token width, scanNumber (c :: rest) = found token width ∧ width ≤ rest.length ∧
      scanNumber (c :: (rest ++ tail)) = found token width := by
  have hwhole := digitsWidth_le (c :: rest)
  have hwhole' : digitsWidth (c :: (rest ++ tail)) = digitsWidth (c :: rest) :=
    digitsWidth_append h (c :: rest)
  have hdrop : ∀ n ≤ (c :: rest).length,
      (c :: (rest ++ tail)).drop n = (c :: rest).drop n ++ tail :=
    fun n hn => List.drop_append_of_le_length hn
  have hafter : ((c :: rest).drop (digitsWidth (c :: rest))).length =
      (c :: rest).length - digitsWidth (c :: rest) := List.length_drop
  unfold scanNumber
  simp only [hwhole', hdrop _ hwhole, List.head?_cons, h.head?_append_eq (c := 'x') (by decide),
    h.head?_append_eq (c := '.') (by decide)]
  generalize (c :: rest).drop (digitsWidth (c :: rest)) = after at hafter ⊢
  generalize digitsWidth (c :: rest) = whole at hwhole hafter ⊢
  by_cases hhex : whole = 1 ∧ some c = some '0' ∧ after.head? = some 'x'
  · obtain ⟨more, rfl⟩ := List.head?_eq_some_iff.1 hhex.2.2
    have hdigits := length_takeWhile_le Text.isHexDigit more
    rw [List.length_cons, List.length_cons] at hafter
    simp only [if_pos hhex, List.cons_append, List.drop_succ_cons, List.drop_zero,
      h.takeWhile_append (p := Text.isHexDigit) (forall_stop (by decide))]
    exact ⟨_, _, rfl, by omega, rfl⟩
  · have hpoint := signLength_le '.' after
    simp only [if_neg hhex]
    generalize (if after.head? = some '.' then 1 else 0) = point at hpoint ⊢
    have hfraction := digitsWidth_le (after.drop point)
    rw [List.length_drop] at hfraction
    simp only [List.drop_append_of_le_length hpoint, digitsWidth_append h]
    generalize digitsWidth (after.drop point) = fraction at hfraction ⊢
    by_cases hnone : whole = 0 ∧ fraction = 0
    · simp only [if_pos hnone]
      exact ⟨_, _, rfl, Nat.zero_le _, rfl⟩
    · have hmantissa : whole + point + fraction ≤ (c :: rest).length := by omega
      have hexponent := exponentWidth_le ((c :: rest).drop (whole + point + fraction))
      rw [List.length_drop] at hexponent
      simp only [if_neg hnone, hdrop _ hmantissa, exponentWidth_append h]
      generalize exponentWidth ((c :: rest).drop (whole + point + fraction)) = exponent
        at hexponent ⊢
      have hend : whole + point + fraction + exponent ≤ (c :: rest).length := by omega
      have hlast : ((c :: rest).drop (whole + point + fraction + exponent)).length =
          (c :: rest).length - (whole + point + fraction + exponent) := List.length_drop
      simp only [hdrop _ hend, h.head?_append_eq (c := 'L') (by decide)]
      generalize (c :: rest).drop (whole + point + fraction + exponent) = last at hlast ⊢
      have hlong := signLength_le 'L' last
      rw [List.length_cons] at *
      exact ⟨_, _, rfl, by omega, rfl⟩

theorem scanDollar_append (h : Stops tail) {cs : List Char} {token? : Option Token} {width : Nat}
    (hcs : scanDollar cs = .ok (token?, width)) :
    width ≤ cs.length ∧ scanDollar (cs ++ tail) = .ok (token?, width) ∧
      Sharp '$' (cs.take width) := by
  have hstop : ∀ d ∈ stopChars, (Text.isLetterOrNumeric d || d = '_') = false := by
    intro d hd
    rw [isLetterOrNumeric_stop d hd, Bool.false_or]
    exact forall_stop (p := fun d => d = '_') (by decide) d hd
  have htag : (cs ++ tail).takeWhile (fun c => Text.isLetterOrNumeric c || c = '_') =
      cs.takeWhile fun c => Text.isLetterOrNumeric c || c = '_' :=
    h.takeWhile_append hstop cs
  have hfront : cs.takeWhile (fun c => Text.isLetterOrNumeric c || c = '_') <+: cs :=
    List.takeWhile_prefix _
  have hsharp : ∀ d ∈ cs.takeWhile (fun c => Text.isLetterOrNumeric c || c = '_'),
      Text.isBlank d = false := by
    intro d hd
    have hpart := List.mem_takeWhile_imp hd
    exact not_isBlank (p := fun c => Text.isLetterOrNumeric c || c = '_') hstop hpart
  unfold scanDollar at hcs ⊢
  simp only [htag, List.drop_append_of_le_length hfront.length_le]
  generalize cs.takeWhile (fun c => Text.isLetterOrNumeric c || c = '_') = tag at hcs hfront hsharp ⊢
  dsimp only at hcs
  split at hcs
  · next body hbody =>
    have hcs' : cs = tag ++ '$' :: body := by
      rw [← hbody, ← List.prefix_iff_eq_append.1 hfront]
      simp
    split at hcs
    · next n hn =>
      obtain ⟨-, hbound, hend, heq⟩ := @widthThrough?_append tail _ _ _ hn
      obtain ⟨rfl, rfl⟩ := Prod.mk.inj (Except.ok.inj hcs)
      refine ⟨?_, ?_, ?_⟩
      · rw [hcs', List.length_append, List.length_cons]
        omega
      · rw [hbody]
        simp only [List.cons_append]
        simp only [List.cons_append] at heq
        rw [heq]
        rfl
      · obtain ⟨more, hmore⟩ := hend
        rw [hcs', Nat.add_assoc, List.take_length_add_append, Nat.add_comm, List.take_succ_cons]
        refine Sharp.of_getLast? (e := '$') (by decide) ?_ (by decide)
        have hshape : '$' :: (more ++ ('$' :: tag ++ ['$'])) =
            ('$' :: (more ++ '$' :: tag)) ++ ['$'] := by
          simp
        rw [← hmore, hshape, ← List.append_assoc, List.getLast?_concat]
    · exact absurd hcs (by simp)
  · next hother =>
    obtain ⟨rfl, rfl⟩ := Prod.mk.inj (Except.ok.inj hcs)
    refine ⟨hfront.length_le, ?_, ?_⟩
    · split
      · next body hbody =>
        have hhead := (h.head?_append_eq (c := '$') (by decide) (cs.drop tag.length)).1
          (by rw [hbody]; rfl)
        obtain ⟨more, hmore⟩ := List.head?_eq_some_iff.1 hhead
        exact absurd hmore (hother more)
      · rfl
    · rw [← List.prefix_iff_eq_take.1 hfront]
      exact Sharp.of_all (by decide) hsharp

theorem isNumeric_stop : ∀ d ∈ stopChars, Text.isNumeric d = false := by
  intro d hd
  have hneither := isLetterOrNumeric_stop d hd
  rw [Text.isLetterOrNumeric, Bool.or_eq_false_iff] at hneither
  exact hneither.2

theorem isWordPart_of_isWordStart {c : Char} (h : isWordStart c = true) :
    isWordPart c = true := by
  simp only [isWordStart, Bool.or_eq_true, decide_eq_true_eq] at h
  simp only [isWordPart, Text.isLetterOrNumeric, Bool.or_eq_true, decide_eq_true_eq]
  tauto

theorem sharp_takeWhile {p : Char → Bool} (hp : ∀ d ∈ stopChars, p d = false) {c : Char}
    (hc : Text.isBlank c = false) (rest : List Char) :
    Sharp c (rest.take (rest.takeWhile p).length) := by
  rw [← List.prefix_iff_eq_take.1 (List.takeWhile_prefix p)]
  exact Sharp.of_all hc fun d hd => not_isBlank hp (List.mem_takeWhile_imp hd)

/-- A number ends before the first blank. -/
theorem sharp_scanNumber {c : Char} {rest : List Char} {token : Token} {width : Nat}
    (hc : Text.isBlank c = false) (h : scanNumber (c :: rest) = found token width) :
    Sharp c (rest.take width) := by
  obtain ⟨front, back, rfl, hfront, hback⟩ := exists_split_blank rest
  obtain ⟨token', n, -, hle, heq⟩ := scanNumber_append hback c front
  rw [heq] at h
  obtain ⟨-, rfl⟩ := Prod.mk.inj (Except.ok.inj h)
  rw [List.take_append_of_le_length hle]
  exact Sharp.of_all hc fun d hd => hfront d (List.mem_of_mem_take hd)

/-- An operator ends before the first blank. -/
theorem sharp_operator {c : Char} {rest : List Char} :
    ∀ d ∈ rest.take (operatorWidth (c :: rest)), Text.isBlank d = false := by
  obtain ⟨front, back, rfl, hfront, hback⟩ := exists_split_blank rest
  intro d hd
  rw [← List.cons_append, operatorWidth_append hback,
    List.take_append_of_le_length (operatorWidth_le c front)] at hd
  exact hfront d (List.mem_of_mem_take hd)

/-! ## One step of the scanner -/

/-- A closed text ends with its delimiter, which is no blank. -/
theorem Sharp.of_quoted {c e : Char} {cs : List Char} {n : Nat} (hc : Text.isBlank c = false)
    (hlast : (cs.take n).getLast? = some e) (he : Text.isBlank e = false) :
    Sharp c ((e :: cs).take (n + 1)) := by
  refine Sharp.of_getLast? hc (e := e) ?_ he
  rw [List.take_succ_cons, List.getLast?_cons, hlast]
  rfl

/-- What is found before some text is found after it too, unless it is a comment: it lies within
the text `c :: rest`, and no token starts or ends with a blank. -/
def Kept (c : Char) (rest : List Char) (before after : Scan) : Prop :=
  ∀ token? width, token? ≠ some .comment → before = .ok (token?, width) →
    width ≤ rest.length ∧ after = .ok (token?, width) ∧
      (token? ≠ none → Sharp c (rest.take width))

namespace Kept

variable {c : Char} {rest : List Char} {before after before' after' : Scan}

theorem of_error {f : LexicalFault × Nat} : Kept c rest (.error f) after := by
  intro token? width _ hbefore
  cases hbefore

theorem of_comment {width : Nat} : Kept c rest (found .comment width) after := by
  intro token? width' hcomment hbefore
  exact absurd (Prod.mk.inj (Except.ok.inj hbefore)).1.symm hcomment

theorem of_gap : Kept c rest (.ok (none, 0)) (.ok (none, 0)) := by
  intro token? width _ hbefore
  obtain ⟨rfl, rfl⟩ := Prod.mk.inj (Except.ok.inj hbefore)
  exact ⟨Nat.zero_le _, rfl, fun hsome => absurd rfl hsome⟩

theorem of_found {token : Token} {width : Nat} (hle : width ≤ rest.length)
    (hsharp : Sharp c (rest.take width)) :
    Kept c rest (found token width) (found token width) := by
  intro token? width' _ hbefore
  obtain ⟨rfl, rfl⟩ := Prod.mk.inj (Except.ok.inj hbefore)
  exact ⟨hle, rfl, fun _ => hsharp⟩

theorem ite {p : Prop} [Decidable p] (hthen : p → Kept c rest before after)
    (helse : ¬p → Kept c rest before' after') :
    Kept c rest (if p then before else before') (if p then after else after') := by
  by_cases hp : p
  · rw [if_pos hp, if_pos hp]
    exact hthen hp
  · rw [if_neg hp, if_neg hp]
    exact helse hp

end Kept

/-- An operator, a parenthesis, a comma or a semicolon. -/
theorem kept_sign {c : Char} (hc : Text.isBlank c = false) (rest : List Char)
    (token : Token) {width : Nat} (hwidth : width ≤ operatorWidth (c :: rest)) :
    Kept c rest (found token width) (found token width) := by
  refine Kept.of_found (hwidth.trans (operatorWidth_le c rest)) (Sharp.of_all hc fun d hd => ?_)
  exact sharp_operator d ((List.take_prefix_take_left hwidth).subset hd)

theorem closing?_sharp {c close : Char} (h : closing? c = some close) :
    close ∉ stopChars ∧ Text.isBlank close = false ∧ Text.isBlank c = false := by
  unfold closing? at h
  split at h
  · obtain rfl := Option.some.inj h
    decide
  · obtain rfl := Option.some.inj h
    decide
  · obtain rfl := Option.some.inj h
    decide
  · cases h

/-- A text between a delimiter and the one that closes it. -/
theorem kept_enclosed (h : Stops tail) {c close : Char} (hstop : close ∉ stopChars)
    (hclose : Text.isBlank close = false) (hc : Text.isBlank c = false) (rest : List Char)
    (token : List Char → Token) (f : LexicalFault × Nat) :
    Kept c rest
      (match enclosed? close rest with
        | some (value, width) => found (token value) width
        | none => .error f)
      (match enclosed? close (rest ++ tail) with
        | some (value, width) => found (token value) width
        | none => .error f) := by
  cases hvalue : enclosed? close rest with
  | none => exact Kept.of_error
  | some value =>
      obtain ⟨hle, hlast, heq⟩ := enclosed?_append h hstop hvalue
      rw [heq]
      exact Kept.of_found hle (Sharp.of_getLast? hc hlast hclose)

/-- A quoted text behind a letter. -/
theorem kept_lettered (h : Stops tail) {c : Char} (hc : Text.isBlank c = false)
    {rest : List Char} (hquote : (rest.head? == some '\x27') = true) (token : Token)
    (f : LexicalFault × Nat) :
    Kept c rest
      (match enclosed? '\x27' rest.tail with
        | some (_, width) => found token (width + 1)
        | none => .error f)
      (match enclosed? '\x27' (rest ++ tail).tail with
        | some (_, width) => found token (width + 1)
        | none => .error f) := by
  obtain ⟨more, rfl⟩ := List.head?_eq_some_iff.1 (beq_iff_eq.1 hquote)
  rw [List.cons_append, List.tail_cons, List.tail_cons]
  cases hvalue : enclosed? '\x27' more with
  | none => exact Kept.of_error
  | some value =>
      obtain ⟨hle, hlast, heq⟩ := enclosed?_append h (by decide) hvalue
      rw [heq]
      exact Kept.of_found (by simpa using hle) (Sharp.of_quoted hc hlast (by decide))

/-- A quoted text behind a letter, in which a backslash keeps a quote from closing it. -/
theorem kept_escaped (h : Stops tail) {c : Char} (hc : Text.isBlank c = false)
    {rest : List Char} (hquote : (rest.head? == some '\x27') = true) (token : Token)
    (f : LexicalFault × Nat) :
    Kept c rest
      (match escapedWidth? rest.tail with
        | some width => found token (width + 1)
        | none => .error f)
      (match escapedWidth? (rest ++ tail).tail with
        | some width => found token (width + 1)
        | none => .error f) := by
  obtain ⟨more, rfl⟩ := List.head?_eq_some_iff.1 (beq_iff_eq.1 hquote)
  rw [List.cons_append, List.tail_cons, List.tail_cons]
  cases hvalue : escapedWidth? more with
  | none => exact Kept.of_error
  | some n =>
      obtain ⟨hle, hlast, heq⟩ := escapedWidth?_append h hvalue
      rw [heq]
      exact Kept.of_found (by simpa using hle) (Sharp.of_quoted hc hlast (by decide))

/-- What is found at a character is found there as well when a stop follows the text. -/
theorem kept_scan (h : Stops tail) (afterWord : Bool) (c : Char) (rest : List Char) :
    Kept c rest (scan afterWord c rest) (scan afterWord c (rest ++ tail)) := by
  have hletter : ∀ {d e : Char}, Text.isBlank d = false → Text.isBlank e = false →
      c = d ∨ c = e → Text.isBlank c = false := by
    rintro d e hd he (rfl | rfl)
    · exact hd
    · exact he
  unfold scan
  rw [h.head?_append_beq (c := '\x27') (by decide), h.head?_append_beq (c := '_') (by decide),
    h.head?_append_beq (c := '-') (by decide), h.head?_append_beq (c := '*') (by decide)]
  -- The cases follow `scan`. Blanks come first, then the texts that end with their delimiter.
  refine Kept.ite (fun _ => Kept.of_gap) fun _ => ?_
  refine Kept.ite (fun hnational => ?_) fun _ => ?_
  · rw [Bool.and_eq_true, Bool.or_eq_true, decide_eq_true_eq, decide_eq_true_eq] at hnational
    exact kept_lettered h (hletter (by decide) (by decide) hnational.1) hnational.2 _ _
  refine Kept.ite (fun hhex => ?_) fun _ => ?_
  · rw [Bool.and_eq_true, Bool.or_eq_true, decide_eq_true_eq, decide_eq_true_eq] at hhex
    exact kept_escaped h (hletter (by decide) (by decide) hhex.1) hhex.2 _ _
  refine Kept.ite (fun hquote => ?_) fun _ => ?_
  · refine kept_enclosed h (by decide) (by decide) ?_ rest (fun value => .string (.ofList value)) _
    rw [hquote]
    decide
  cases hclosing : closing? c with
  | some close =>
      obtain ⟨hstop, hclose, hc⟩ := closing?_sharp hclosing
      exact kept_enclosed h hstop hclose hc rest (fun value => .quotedWord (.ofList value)) _
  | none =>
      dsimp only
      refine Kept.ite (fun hpoint => ?_) fun _ => ?_
      · rw [Bool.and_eq_true, decide_eq_true_eq] at hpoint
        refine Kept.ite (fun _ => Kept.of_found (Nat.zero_le _) (Sharp.of_all ?_ (by simp)))
          fun _ => Kept.of_error
        rw [hpoint.1]
        decide
      refine Kept.ite (fun hnumber => ?_) fun _ => ?_
      · obtain ⟨token, n, heq, hle, htail⟩ := scanNumber_append h c rest
        rw [heq, htail]
        refine Kept.of_found hle (sharp_scanNumber ?_ heq)
        exact not_isBlank (p := fun c => c.isDigit || c = '.') (forall_stop (by decide)) hnumber
      -- A comment may go on behind the stop, so nothing is claimed about it.
      refine Kept.ite (fun _ => Kept.of_comment) fun _ => ?_
      refine Kept.ite (fun _ => ?_) fun _ => ?_
      · cases commentWidth? rest.tail with
        | none => exact Kept.of_error
        | some n => exact Kept.of_comment
      refine Kept.ite (fun hdollar => ?_) fun _ => ?_
      · intro token? width _ hscan
        obtain ⟨hle, htail, hsharp⟩ := scanDollar_append h hscan
        rw [hdollar]
        exact ⟨hle, htail, fun _ => hsharp⟩
      refine Kept.ite (fun hplace => ?_) fun _ => ?_
      · rw [h.takeWhile_append isNumeric_stop, hplace]
        exact Kept.of_found (length_takeWhile_le _ _)
          (sharp_takeWhile isNumeric_stop (by decide) rest)
      refine Kept.ite (fun hword => ?_) fun _ => ?_
      · rw [scanWord, scanWord, h.takeWhile_append isWordPart_stop]
        exact Kept.of_found (length_takeWhile_le _ _) (sharp_takeWhile isWordPart_stop
          (not_isBlank isWordPart_stop (isWordPart_of_isWordStart hword)) rest)
      refine Kept.ite (fun _ => Kept.of_gap) fun hblank => ?_
      rw [Bool.not_eq_true] at hblank
      rw [← List.cons_append, operatorWidth_append h]
      split
      · exact kept_sign hblank rest _ (Nat.zero_le _)
      · exact kept_sign hblank rest _ (Nat.zero_le _)
      · exact kept_sign hblank rest _ (Nat.zero_le _)
      · exact kept_sign hblank rest _ (Nat.zero_le _)
      · exact kept_sign hblank rest _ (Nat.le_refl _)

/-- What is found at a character is found there as well when a stop follows the text, unless it is
a comment. -/
theorem scan_append (h : Stops tail) {afterWord : Bool} {c : Char} {rest : List Char}
    {token? : Option Token} {width : Nat} (hcomment : token? ≠ some .comment)
    (hscan : scan afterWord c rest = .ok (token?, width)) :
    width ≤ rest.length ∧ scan afterWord c (rest ++ tail) = .ok (token?, width) ∧
      (token? ≠ none → Sharp c (rest.take width)) :=
  kept_scan h afterWord c rest token? width hcomment hscan

end Lexer

end Ddl

end EntityRelation
