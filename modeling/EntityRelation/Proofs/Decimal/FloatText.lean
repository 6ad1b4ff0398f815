import EntityRelation.Proofs.Decimal.FloatBits
import EntityRelation.Proofs.Text.Numeral

/-!
# Coordinates read back

The plain form of a finite number is read back as the number: its digits give a decimal of the same
value, that value is near the number, and so it rounds to its bits.
-/

namespace EntityRelation

namespace Text

theorem decimalValue_append (ds es : List Char) :
    decimalValue (ds ++ es) = decimalValue ds * 10 ^ es.length + decimalValue es := by
  induction es using List.reverseRecOn with
  | nil => simp
  | append_singleton es e ih =>
      rw [← List.append_assoc, decimalValue_append_singleton, decimalValue_append_singleton, ih,
        List.length_append, List.length_singleton, pow_succ]
      ring

theorem decimalValue_zeros (k : ℕ) : decimalValue (List.replicate k '0') = 0 := by
  induction k with
  | zero => rfl
  | succ k ih =>
      rw [List.replicate_succ', decimalValue_append_singleton, ih]
      rfl

theorem decimalValue_toDigits (n : ℕ) : decimalValue (Nat.toDigits 10 n) = n := by
  exact Nat.ofDigitChars_ten_toDigits

end Text

namespace Decimal

open Text

theorem isDigit_of_mem_digits {d : Decimal} {c : Char} (h : c ∈ d.digits) : c.isDigit = true :=
  Nat.isDigit_of_mem_toDigits (by decide) (by decide) h

theorem isDigit_of_mem_zeros {k : ℕ} {c : Char} (h : c ∈ List.replicate k '0') :
    c.isDigit = true := by
  rw [List.eq_of_mem_replicate h]
  rfl

/-- The written form consists of digits and at most one point, and starts with a digit. -/
theorem mem_positional {d : Decimal} {c : Char} (h : c ∈ d.positional) :
    c.isDigit = true ∨ c = '.' := by
  rw [positional] at h
  split at h
  · rcases List.mem_append.1 h with hdigit | hzero
    · exact Or.inl (isDigit_of_mem_digits hdigit)
    · exact Or.inl (isDigit_of_mem_zeros hzero)
  · split at h
    · rcases List.mem_append.1 h with hwhole | hrest
      · exact Or.inl (isDigit_of_mem_digits (List.mem_of_mem_take hwhole))
      · rcases List.mem_cons.1 hrest with hpoint | hfraction
        · exact Or.inr hpoint
        · exact Or.inl (isDigit_of_mem_digits (List.mem_of_mem_drop hfraction))
    · simp only [List.cons_append, List.mem_cons, List.mem_append] at h
      rcases h with rfl | hpoint | hzero | hdigit
      · exact Or.inl rfl
      · exact Or.inr hpoint
      · exact Or.inl (isDigit_of_mem_zeros hzero)
      · exact Or.inl (isDigit_of_mem_digits hdigit)

end Decimal

namespace FloatText

open Text

/-- Digits without a point are read as a whole number. -/
theorem decimal?_whole {ds : List Char} (h : ∀ c ∈ ds, c.isDigit = true) (hne : ds ≠ []) :
    decimal? ds = some ⟨decimalValue ds, 0⟩ := by
  have htake : ds.takeWhile Char.isDigit = ds := List.takeWhile_eq_self_iff.2 h
  have hdrop : ds.dropWhile Char.isDigit = [] := List.dropWhile_eq_nil_iff.2 h
  simp [decimal?, htake, hdrop, hne]

/-- Digits around a point are read together, and those after the point are counted. -/
theorem decimal?_point {ws fs : List Char} (hw : ∀ c ∈ ws, c.isDigit = true)
    (hf : ∀ c ∈ fs, c.isDigit = true) (hne : ws ≠ []) :
    decimal? (ws ++ '.' :: fs) = some ⟨decimalValue (ws ++ fs), -fs.length⟩ := by
  have htake : (ws ++ '.' :: fs).takeWhile Char.isDigit = ws := by
    rw [List.takeWhile_append_of_pos hw]
    simp
  have hdrop : (ws ++ '.' :: fs).dropWhile Char.isDigit = '.' :: fs := by
    rw [List.dropWhile_append_of_pos hw]
    simp
  have htake' : fs.takeWhile Char.isDigit = fs := List.takeWhile_eq_self_iff.2 hf
  have hdrop' : fs.dropWhile Char.isDigit = [] := List.dropWhile_eq_nil_iff.2 hf
  simp [decimal?, htake, hdrop, htake', hdrop', hne]

/-- The written form of a decimal is read as a decimal of the same value. -/
theorem decimal?_positional (d : Decimal) :
    ∃ e, decimal? d.positional = some e ∧ e.value = d.value := by
  have hvalue : decimalValue d.digits = d.coefficient := decimalValue_toDigits d.coefficient
  have hlength := d.length_digits_pos
  rw [Decimal.positional]
  split
  · next hexponent =>
    refine ⟨_, decimal?_whole ?_ ?_, ?_⟩
    · intro c hc
      rcases List.mem_append.1 hc with hdigit | hzero
      · exact Decimal.isDigit_of_mem_digits hdigit
      · exact Decimal.isDigit_of_mem_zeros hzero
    · intro hnil
      simp [(List.append_eq_nil_iff.1 hnil).1] at hlength
    · obtain ⟨k, hk⟩ := Int.eq_ofNat_of_zero_le hexponent
      rw [decimalValue_append, hvalue, decimalValue_zeros, List.length_replicate, Decimal.value,
        Decimal.value, hk]
      simp
  · next hexponent =>
    split
    · next hpoint =>
      refine ⟨_, decimal?_point ?_ ?_ ?_, ?_⟩
      · intro c hc
        exact Decimal.isDigit_of_mem_digits (List.mem_of_mem_take hc)
      · intro c hc
        exact Decimal.isDigit_of_mem_digits (List.mem_of_mem_drop hc)
      · intro hnil
        have hzero := congrArg List.length hnil
        rw [List.length_take, List.length_nil] at hzero
        omega
      · have hplaces : -((d.digits.drop d.point.toNat).length : ℤ) = d.exponent := by
          rw [List.length_drop]
          rw [Decimal.point] at hpoint ⊢
          omega
        rw [List.take_append_drop, hvalue, hplaces]
    · next hpoint =>
      have hshape : '0' :: '.' :: List.replicate (-d.point).toNat '0' ++ d.digits =
          ['0'] ++ '.' :: (List.replicate (-d.point).toNat '0' ++ d.digits) := rfl
      rw [hshape]
      refine ⟨_, decimal?_point ?_ ?_ (List.cons_ne_nil _ _), ?_⟩
      · intro c hc
        rw [List.mem_singleton.1 hc]
        rfl
      · intro c hc
        rcases List.mem_append.1 hc with hzero | hdigit
        · exact Decimal.isDigit_of_mem_zeros hzero
        · exact Decimal.isDigit_of_mem_digits hdigit
      · have hplaces : -((List.replicate (-d.point).toNat '0' ++ d.digits).length : ℤ) =
            d.exponent := by
          rw [List.length_append, List.length_replicate]
          rw [Decimal.point] at hpoint ⊢
          push_cast
          omega
        have hzero : decimalValue ['0'] = 0 := rfl
        rw [decimalValue_append, decimalValue_append, decimalValue_zeros, hvalue, hzero, hplaces]
        simp [Decimal.value]

/-- The written form of a decimal starts with a digit. -/
theorem exists_positional_eq_cons (d : Decimal) :
    ∃ c cs, d.positional = c :: cs ∧ c.isDigit = true := by
  have hlength := d.length_digits_pos
  obtain ⟨c, cs, hcons⟩ := List.exists_cons_of_length_pos hlength
  have hdigit : c.isDigit = true := Decimal.isDigit_of_mem_digits (hcons ▸ List.mem_cons_self)
  rw [Decimal.positional]
  split
  · exact ⟨c, _, by rw [hcons]; rfl, hdigit⟩
  · split
    · next hpoint =>
      obtain ⟨k, hk⟩ : ∃ k, d.point.toNat = k + 1 := ⟨d.point.toNat - 1, by omega⟩
      exact ⟨c, _, by rw [hcons, hk]; rfl, hdigit⟩
    · exact ⟨'0', _, rfl, rfl⟩

/-- A text that starts with a digit is no name of a number. -/
theorem unsigned?_of_digit {negative : Bool} {c : Char} {cs : List Char} (h : c.isDigit = true) :
    unsigned? negative (c :: cs) = (decimal? (c :: cs)).map (·.toFloat negative) := by
  have hne : ∀ name : String, (name.toList.head?.all fun d => !d.isDigit) = true →
      name.toList ≠ [] → String.ofList ((c :: cs).map Char.toLower) ≠ name := by
    intro name hname hnil heq
    have hlist := congrArg String.toList heq
    rw [String.toList_ofList, List.map_cons, toLower_of_isDigit h] at hlist
    rw [← hlist] at hname
    simp [h] at hname
  unfold unsigned?
  split
  · next heq => exact absurd heq (hne "inf" (by decide) (by decide))
  · next heq => exact absurd heq (hne "infinity" (by decide) (by decide))
  · next heq => exact absurd heq (hne "nan" (by decide) (by decide))
  · rfl

/-- The shortest decimal of a finite number rounds to the bits of its absolute value. -/
theorem bits_of_magnitude {x : Float} {d : Decimal} (h : x.isFinite)
    (hvalue : d.value = (magnitude .up x).value) : Nearest.bits d = (Binary.ofFloat x).bits := by
  have hrange := FloatBits.inRange_ofFloat h
  simp only [magnitude] at hvalue
  split at hvalue
  · next hzero =>
    have hcoefficient : d.coefficient = 0 := by
      rw [Decimal.value, Decimal.value, Nat.cast_zero, zero_mul, mul_eq_zero] at hvalue
      rcases hvalue with hnone | hpow
      · exact_mod_cast hnone
      · exact absurd hpow (zpow_ne_zero _ (by norm_num))
    have hexponent : (Binary.ofFloat x).exponent = -1074 := by
      rcases hrange.normal with hleast | hlarge
      · exact hleast
      · rw [hzero] at hlarge
        norm_num at hlarge
    rw [Nearest.bits, if_pos (Or.inl hcoefficient), Binary.bits, hexponent, hzero]
    rfl
  · next hpos =>
    have hnear := Binary.shortest_near hrange (Nat.pos_of_ne_zero hpos) .up
    rw [← hvalue] at hnear
    exact hnear.bits_eq hrange (Nat.pos_of_ne_zero hpos)

/-- The absolute value of a finite number is read back with its sign. -/
theorem unsigned?_positional {x : Float} (h : x.isFinite) :
    unsigned? (isNegative x) (magnitude .up x).positional = some x := by
  obtain ⟨c, cs, hcons, hdigit⟩ := exists_positional_eq_cons (magnitude .up x)
  obtain ⟨d, hd, hvalue⟩ := decimal?_positional (magnitude .up x)
  rw [hcons] at hd ⊢
  rw [unsigned?_of_digit hdigit, hd, Option.map_some, Decimal.toFloat,
    bits_of_magnitude h hvalue, ← FloatBits.toNat_toBits, UInt64.ofNat_toNat,
    FloatBits.ofBits_toBits h]

theorem plain_of_isFinite {x : Float} (h : x.isFinite) :
    plain x = signed x (magnitude .up x).positional := by
  rw [plain, FloatBits.not_isNaN h, FloatBits.not_isInf h]
  rfl

/-- A finite coordinate is read back from its plain form. -/
theorem parse?_plain {x : Float} (h : x.isFinite) : parse? (plain x).toList = some x := by
  have hread := unsigned?_positional h
  rw [plain_of_isFinite h, signed, String.toList_ofList]
  cases hsign : isNegative x with
  | true =>
      rw [hsign] at hread
      exact hread
  | false =>
      rw [hsign] at hread
      obtain ⟨c, cs, hcons, hdigit⟩ := exists_positional_eq_cons (magnitude .up x)
      rw [hcons] at hread ⊢
      simp only [Bool.false_eq_true, if_false]
      unfold parse?
      split
      · next heq =>
        rw [(List.cons.inj heq).1] at hdigit
        exact absurd hdigit (by decide)
      · next heq =>
        rw [(List.cons.inj heq).1] at hdigit
        exact absurd hdigit (by decide)
      · exact hread

/-- The plain form of a finite number consists of digits, a point and a sign. -/
theorem mem_plain {x : Float} (h : x.isFinite) {c : Char} (hc : c ∈ (plain x).toList) :
    c.isDigit = true ∨ c = '.' ∨ c = '-' := by
  rw [plain_of_isFinite h, signed, String.toList_ofList] at hc
  split at hc
  · rcases List.mem_cons.1 hc with hsign | hdigits
    · exact Or.inr (Or.inr hsign)
    · exact (Decimal.mem_positional hdigits).imp_right Or.inl
  · exact (Decimal.mem_positional hc).imp_right Or.inl

end FloatText

end EntityRelation
