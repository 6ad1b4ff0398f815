import EntityRelation.Decimal.Shortest
import EntityRelation.Proofs.Decimal.Rounding
import Mathlib.Data.Nat.Cast.Order.Field
import Mathlib.Tactic.FieldSimp
import Mathlib.Tactic.NormNum

/-!
# The shortest decimal reads back

A decimal is `Near` a binary number when it lies in the interval of the numbers that read back as
it. Every grid point that `onGrid?` finds is near, the grid of seventeen digits always has one,
and every decimal near a number in the range rounds to the bits of that number.
-/

namespace EntityRelation

namespace Decimal

/-- The number that a decimal stands for. -/
def value (d : Decimal) : ℚ :=
  d.coefficient * 10 ^ d.exponent

theorem zpow_eq_div {a : ℚ} (ha : a ≠ 0) (z : ℤ) :
    a ^ z = a ^ z.toNat / a ^ (-z).toNat := by
  rw [← zpow_natCast, ← zpow_natCast, ← zpow_sub₀ ha]
  congr 1
  omega

theorem value_eq_div (d : Decimal) :
    d.value = (d.coefficient * 10 ^ d.exponent.toNat : ℕ) / (10 ^ (-d.exponent).toNat : ℕ) := by
  rw [value, zpow_eq_div (by norm_num)]
  push_cast
  ring

theorem length_digits_pos (d : Decimal) : 0 < d.digits.length :=
  Nat.length_toDigits_pos

theorem coefficient_lt (d : Decimal) : d.coefficient < 10 ^ d.digits.length :=
  (Nat.length_toDigits_le_iff (by norm_num) d.length_digits_pos).1 le_rfl

theorem le_coefficient {d : Decimal} (h : d.coefficient ≠ 0) :
    10 ^ (d.digits.length - 1) ≤ d.coefficient := by
  rcases Nat.eq_zero_or_pos (d.digits.length - 1) with hone | hmore
  · rw [hone, pow_zero]
    exact Nat.one_le_iff_ne_zero.2 h
  · by_contra hlt
    have hle := (Nat.length_toDigits_le_iff (b := 10) (by norm_num) hmore).2 (not_le.1 hlt)
    rw [digits] at hle hmore
    omega

theorem value_lt_point (d : Decimal) : d.value < 10 ^ d.point := by
  rw [value, point, zpow_add₀ (by norm_num), zpow_natCast]
  refine mul_lt_mul_of_pos_right ?_ (zpow_pos (by norm_num) _)
  exact_mod_cast d.coefficient_lt

theorem point_le_value {d : Decimal} (h : d.coefficient ≠ 0) : 10 ^ (d.point - 1) ≤ d.value := by
  have hlength := d.length_digits_pos
  have hpoint : d.point - 1 = ((d.digits.length - 1 : ℕ) : ℤ) + d.exponent := by
    rw [point]
    omega
  rw [value, hpoint, zpow_add₀ (by norm_num), zpow_natCast]
  refine mul_le_mul_of_nonneg_right ?_ (zpow_pos (by norm_num) _).le
  exact_mod_cast le_coefficient h

end Decimal

namespace Binary

/-- How far the numbers that read back as a number go down, in quarters of its last place. -/
def slack (b : Binary) : ℕ :=
  if b.atBoundary then 1 else 2

theorem slack_le (b : Binary) : b.slack ≤ 2 := by
  rw [slack]
  split
  · exact one_le_two
  · exact le_rfl

theorem slack_pos (b : Binary) : 1 ≤ b.slack := by
  rw [slack]
  split
  · exact le_rfl
  · exact one_le_two

/-- A number in the interval of those that read back as a positive binary number. -/
structure Near (b : Binary) (q : ℚ) : Prop where
  low : (4 * b.mantissa - b.slack) * 2 ^ (b.exponent - 2) ≤ q
  high : q ≤ (4 * b.mantissa + 2) * 2 ^ (b.exponent - 2)
  even_of_edge : q = (4 * b.mantissa - b.slack) * 2 ^ (b.exponent - 2) ∨
    q = (4 * b.mantissa + 2) * 2 ^ (b.exponent - 2) → b.mantissa % 2 = 0

/-- A binary number in the form in which a floating-point number gives it, in the range of the
finite ones. -/
structure InRange (b : Binary) : Prop where
  mantissa_lt : b.mantissa < 2 ^ 53
  exponent_ge : -1074 ≤ b.exponent
  exponent_le : b.exponent ≤ 971
  normal : b.exponent = -1074 ∨ 2 ^ 52 ≤ b.mantissa
  atBoundary_iff : b.atBoundary = true ↔ b.mantissa = 2 ^ 52 ∧ -1074 < b.exponent

/-- The bits of a binary number. -/
def bits (b : Binary) : ℕ :=
  (b.exponent + 1074).toNat * 2 ^ 52 + b.mantissa

theorem interval_eq (b : Binary) : b.interval =
    { low := (4 * b.mantissa - b.slack) * 2 ^ (b.exponent - 2).toNat
      middle := 4 * b.mantissa * 2 ^ (b.exponent - 2).toNat
      high := (4 * b.mantissa + 2) * 2 ^ (b.exponent - 2).toNat
      denominator := 2 ^ (2 - b.exponent).toNat
      closed := b.mantissa % 2 = 0 } := rfl

/-- Comparing with a point of a grid is comparing natural numbers. -/
theorem le_grid_iff (a k : ℕ) (e u : ℤ) :
    (a * 2 ^ (e - 2) : ℚ) ≤ k * 10 ^ u ↔
      a * 2 ^ (e - 2).toNat * 10 ^ (-u).toNat ≤ k * (2 ^ (2 - e).toNat * 10 ^ u.toNat) := by
  rw [Decimal.zpow_eq_div two_ne_zero, Decimal.zpow_eq_div (by norm_num : (10 : ℚ) ≠ 0),
    neg_sub, mul_div_assoc', mul_div_assoc', div_le_div_iff₀ (by positivity) (by positivity)]
  norm_cast
  rw [mul_assoc k, Nat.mul_comm (10 ^ u.toNat)]

theorem grid_le_iff (a k : ℕ) (e u : ℤ) :
    (k * 10 ^ u : ℚ) ≤ a * 2 ^ (e - 2) ↔
      k * (2 ^ (2 - e).toNat * 10 ^ u.toNat) ≤ a * 2 ^ (e - 2).toNat * 10 ^ (-u).toNat := by
  rw [Decimal.zpow_eq_div two_ne_zero, Decimal.zpow_eq_div (by norm_num : (10 : ℚ) ≠ 0),
    neg_sub, mul_div_assoc', mul_div_assoc', div_le_div_iff₀ (by positivity) (by positivity)]
  norm_cast
  rw [mul_assoc k, Nat.mul_comm (10 ^ u.toNat)]

/-- A grid point in the interval is near. -/
theorem near_of_contains {b : Binary} {k : ℕ} {u : ℤ} (hpos : 0 < b.mantissa)
    (h : (b.interval.scale (10 ^ (-u).toNat) (10 ^ u.toNat)).contains k) :
    b.Near (k * 10 ^ u) := by
  have hslack := b.slack_le
  have hcast : (4 * b.mantissa - b.slack : ℚ) = (4 * b.mantissa - b.slack : ℕ) := by
    rw [Nat.cast_sub (by omega)]
    push_cast
    rfl
  have hcast' : (4 * b.mantissa + 2 : ℚ) = (4 * b.mantissa + 2 : ℕ) := by
    push_cast
    rfl
  rw [interval_eq] at h
  by_cases heven : b.mantissa % 2 = 0
  · simp only [Interval.contains, Interval.scale, heven, decide_true, if_true,
      Bool.and_eq_true, decide_eq_true_eq] at h
    constructor
    · rw [hcast, le_grid_iff]
      exact h.1
    · rw [hcast', grid_le_iff]
      exact h.2
    · intro _
      exact heven
  · simp only [Interval.contains, Interval.scale, heven, decide_false, Bool.false_eq_true,
      if_false, Bool.and_eq_true, decide_eq_true_eq] at h
    have hlow : (4 * b.mantissa - b.slack : ℚ) * 2 ^ (b.exponent - 2) < k * 10 ^ u := by
      rw [hcast, ← not_le, grid_le_iff, not_le]
      exact h.1
    have hhigh : (k * 10 ^ u : ℚ) < (4 * b.mantissa + 2) * 2 ^ (b.exponent - 2) := by
      rw [hcast', ← not_le, le_grid_iff, not_le]
      exact h.2
    refine ⟨hlow.le, hhigh.le, ?_⟩
    rintro (hedge | hedge)
    · exact absurd hedge hlow.ne'
    · exact absurd hedge hhigh.ne

theorem contains_of_nearest? {i : Interval} {tie : Tie} {k : ℕ} (h : i.nearest? tie = some k) :
    i.contains k := by
  rw [Interval.nearest?] at h
  grind

/-- An interval longer than the distance of whole numbers holds one next to its middle. -/
theorem isSome_nearest? {i : Interval} (tie : Tie) (hd : 0 < i.denominator)
    (hlow : i.low < i.middle) (hhigh : i.middle < i.high)
    (hlong : i.low + i.denominator < i.high) : (i.nearest? tie).isSome := by
  have hfloor : i.middle / i.denominator * i.denominator ≤ i.middle := Nat.div_mul_le_self _ _
  have hceil : i.middle < (i.middle / i.denominator + 1) * i.denominator := by
    rw [Nat.mul_comm]
    exact Nat.lt_mul_div_succ _ hd
  have hstep : (i.middle / i.denominator + 1) * i.denominator =
      i.middle / i.denominator * i.denominator + i.denominator := Nat.succ_mul _ _
  have hor : i.contains (i.middle / i.denominator) ∨ i.contains (i.middle / i.denominator + 1) := by
    simp only [Interval.contains]
    split
    · simp only [Bool.and_eq_true, decide_eq_true_eq]
      omega
    · simp only [Bool.and_eq_true, decide_eq_true_eq]
      omega
  rw [Interval.nearest?]
  rcases hor with hbelow | habove
  · grind
  · grind

theorem near_of_onGrid? {b : Binary} {tie : Tie} {count : ℕ} {d : Decimal}
    (hpos : 0 < b.mantissa) (h : b.interval.onGrid? tie count = some d) : b.Near d.value := by
  simp only [Interval.onGrid?, Option.map_eq_some_iff] at h
  obtain ⟨k, hk, hd⟩ := h
  have hnear := near_of_contains hpos (contains_of_nearest? hk)
  split at hd
  · next hcount =>
    rw [← hd, Decimal.value, Nat.cast_one, one_mul, add_comm, zpow_add₀ (by norm_num)]
    rw [hcount, Nearest.natPow_eq] at hnear
    exact_mod_cast hnear
  · rw [← hd]
    exact hnear

/-- The number that a binary number stands for. -/
def value (b : Binary) : ℚ :=
  b.mantissa * 2 ^ b.exponent

theorem value_eq_div (b : Binary) :
    b.value = b.interval.middle / b.interval.denominator := by
  have hsplit : (2 : ℚ) ^ b.exponent = 4 * 2 ^ (b.exponent - 2) := by
    rw [zpow_sub₀ two_ne_zero]
    norm_num
    ring
  rw [value, hsplit, Decimal.zpow_eq_div two_ne_zero, neg_sub, interval_eq]
  push_cast
  ring

/-- With enough places, moving a fraction to the left brings it to one. -/
theorem le_of_leadingZeros {denominator fuel numerator : ℕ}
    (h : denominator ≤ numerator * 10 ^ (fuel + 1)) :
    denominator ≤ numerator * 10 ^ (leadingZeros denominator fuel numerator + 1) := by
  induction fuel generalizing numerator with
  | zero => exact h
  | succ fuel ih =>
      rw [leadingZeros]
      split
      · next hone => simpa using hone
      · rw [pow_succ', ← Nat.mul_assoc] at h
        rw [pow_succ', ← Nat.mul_assoc]
        exact ih h

theorem two_pow_le_ten_pow {n m k r s : ℕ} (hn : n ≤ 93 * k + r) (hr : 2 ^ r ≤ 10 ^ s)
    (hm : 28 * k + s ≤ m) : 2 ^ n ≤ 10 ^ m := by
  calc
    2 ^ n ≤ 2 ^ (93 * k + r) := Nat.pow_le_pow_right Nat.two_pos hn
    _ = (2 ^ 93) ^ k * 2 ^ r := by rw [pow_add, pow_mul]
    _ ≤ (10 ^ 28) ^ k * 10 ^ s :=
      Nat.mul_le_mul (Nat.pow_le_pow_left (by norm_num) k) hr
    _ = 10 ^ (28 * k + s) := by rw [← pow_mul, ← pow_add]
    _ ≤ 10 ^ m := Nat.pow_le_pow_right (by norm_num) hm

/-- The power of ten below the magnitude is not above the number. -/
theorem magnitude_le_value {b : Binary} (hb : b.InRange) (hpos : 0 < b.mantissa) :
    (10 : ℚ) ^ (b.interval.magnitude - 1) ≤ b.value := by
  have hden : 0 < b.interval.denominator := Nat.two_pow_pos _
  rw [value_eq_div, Interval.magnitude]
  split
  · next hone =>
    have hfloor : b.interval.middle / b.interval.denominator ≠ 0 :=
      (Nat.div_pos hone hden).ne'
    have hlength := (Decimal.mk (b.interval.middle / b.interval.denominator) 0).length_digits_pos
    have hdigits := Decimal.le_coefficient
      (d := ⟨b.interval.middle / b.interval.denominator, 0⟩) hfloor
    rw [Decimal.digits] at hlength hdigits
    rw [← Nat.cast_pred hlength, zpow_natCast]
    refine le_trans ?_ Nat.cast_div_le
    exact_mod_cast hdigits
  · have hmiddle : 0 < b.interval.middle := by
      simp only [interval_eq]
      positivity
    have hsmall : b.interval.denominator ≤ 10 ^ (330 + 1) := by
      have hge := hb.exponent_ge
      exact two_pow_le_ten_pow (k := 11) (r := 53) (s := 16) (by omega) (by norm_num) (by norm_num)
    have hplaces := le_of_leadingZeros (hsmall.trans (Nat.le_mul_of_pos_left _ hmiddle))
    generalize leadingZeros b.interval.denominator 330 b.interval.middle = zeros at hplaces ⊢
    have hexponent : -(zeros : ℤ) - 1 = -((zeros + 1 : ℕ) : ℤ) := by
      push_cast
      ring
    have hden' : (0 : ℚ) < b.interval.denominator := by exact_mod_cast hden
    rw [hexponent, zpow_neg, zpow_natCast, inv_eq_one_div,
      div_le_div_iff₀ (by positivity) hden', one_mul]
    exact_mod_cast hplaces

/-- On the grid of seventeen digits the points are closer than the interval is long. -/
theorem grid_lt_interval {b : Binary} (hb : b.InRange) (hpos : 0 < b.mantissa) :
    (10 : ℚ) ^ (b.interval.magnitude - 17) < (2 + b.slack) * 2 ^ (b.exponent - 2) := by
  have hlength : (4 * b.mantissa : ℚ) < (2 + b.slack) * 10 ^ 16 := by
    have hlt := hb.mantissa_lt
    have hnat : 4 * b.mantissa < (2 + b.slack) * 10 ^ 16 := by
      rw [slack]
      split
      · next hboundary =>
        have heq := (hb.atBoundary_iff.1 hboundary).1
        omega
      · omega
    exact_mod_cast hnat
  have hunit : (10 : ℚ) ^ (b.interval.magnitude - 17) =
      10 ^ (b.interval.magnitude - 1) / 10 ^ 16 := by
    rw [← zpow_natCast (10 : ℚ) 16, ← zpow_sub₀ (by norm_num)]
    congr 1
    push_cast
    ring
  have hvalue : b.value = 4 * b.mantissa * 2 ^ (b.exponent - 2) := by
    rw [value, zpow_sub₀ two_ne_zero]
    norm_num
    ring
  rw [hunit, div_lt_iff₀ (by positivity)]
  calc
    (10 : ℚ) ^ (b.interval.magnitude - 1) ≤ b.value := magnitude_le_value hb hpos
    _ = 4 * b.mantissa * 2 ^ (b.exponent - 2) := hvalue
    _ < (2 + b.slack) * 10 ^ 16 * 2 ^ (b.exponent - 2) :=
      mul_lt_mul_of_pos_right hlength (zpow_pos two_pos _)
    _ = (2 + b.slack) * 2 ^ (b.exponent - 2) * 10 ^ 16 := by ring

theorem isSome_onGrid?_seventeen {b : Binary} (hb : b.InRange) (hpos : 0 < b.mantissa)
    (tie : Tie) : (b.interval.onGrid? tie 17).isSome := by
  have hgrid := grid_lt_interval hb hpos
  have hslack := b.slack_le
  have hslack' := b.slack_pos
  simp only [Interval.onGrid?, Option.isSome_map]
  generalize b.interval.magnitude - (17 : ℕ) = u at hgrid ⊢
  have hlong : 2 ^ (2 - b.exponent).toNat * 10 ^ u.toNat <
      (2 + b.slack) * 2 ^ (b.exponent - 2).toNat * 10 ^ (-u).toNat := by
    have hiff := le_grid_iff (2 + b.slack) 1 b.exponent u
    push_cast [one_mul] at hiff
    rw [← not_le, ← hiff, not_le]
    exact hgrid
  have hscale : 0 < 2 ^ (b.exponent - 2).toNat * 10 ^ (-u).toNat := by positivity
  rw [interval_eq]
  apply isSome_nearest?
  · exact Nat.mul_pos (Nat.two_pow_pos _) (Nat.pow_pos (by norm_num))
  all_goals
    simp only [Interval.scale, Nearest.natPow_eq, Nat.mul_assoc] at hlong ⊢
    generalize 2 ^ (b.exponent - 2).toNat * 10 ^ (-u).toNat = scale at hscale hlong ⊢
  · rw [← Nat.mul_assoc]
    exact Nat.mul_lt_mul_of_pos_right (by omega) hscale
  · rw [← Nat.mul_assoc]
    exact Nat.mul_lt_mul_of_pos_right (by omega) hscale
  · have hsum : (4 * b.mantissa - b.slack) * scale + (2 + b.slack) * scale =
        (4 * b.mantissa + 2) * scale := by
      rw [← Nat.add_mul]
      congr 1
      omega
    omega

/-- The shortest decimal is near. -/
theorem shortest_near {b : Binary} (hb : b.InRange) (hpos : 0 < b.mantissa) (tie : Tie) :
    b.Near (b.shortest tie).value := by
  have hsome : ((List.range' 1 17).findSome? (b.interval.onGrid? tie)).isSome := by
    rw [List.findSome?_isSome_iff]
    exact ⟨17, by decide, isSome_onGrid?_seventeen hb hpos tie⟩
  obtain ⟨d, hd⟩ := Option.isSome_iff_exists.1 hsome
  obtain ⟨count, -, hcount⟩ := List.exists_of_findSome?_eq_some hd
  rw [shortest, hd, Option.getD_some]
  exact near_of_onGrid? hpos hcount

theorem Near.le_pow {b : Binary} {q : ℚ} (hb : b.InRange) (h : b.Near q) : q ≤ 10 ^ 309 := by
  have hmantissa : (4 * b.mantissa + 2 : ℚ) ≤ 2 ^ 55 := by
    have hlt := hb.mantissa_lt
    exact_mod_cast (show 4 * b.mantissa + 2 ≤ 2 ^ 55 by omega)
  have hscale : (2 : ℚ) ^ (b.exponent - 2) ≤ 2 ^ 969 := by
    rw [← zpow_natCast]
    exact zpow_le_zpow_right₀ one_le_two (by have := hb.exponent_le; push_cast; omega)
  have hpow : (2 : ℚ) ^ (55 + 969) ≤ 10 ^ 309 := by
    exact_mod_cast two_pow_le_ten_pow (n := 55 + 969) (k := 11) (r := 1) (s := 1)
      (by norm_num) (by norm_num) (by norm_num)
  calc
    q ≤ (4 * b.mantissa + 2) * 2 ^ (b.exponent - 2) := h.high
    _ ≤ 2 ^ 55 * 2 ^ 969 := mul_le_mul hmantissa hscale (zpow_pos two_pos _).le (by positivity)
    _ = 2 ^ (55 + 969) := (pow_add 2 55 969).symm
    _ ≤ 10 ^ 309 := hpow

theorem Near.pow_le {b : Binary} {q : ℚ} (hb : b.InRange) (hpos : 0 < b.mantissa)
    (h : b.Near q) : 10 ^ (-331 : ℤ) ≤ q := by
  have hslack := b.slack_le
  have hmantissa : (2 : ℚ) ≤ 4 * b.mantissa - b.slack := by
    have hnat : 2 + b.slack ≤ 4 * b.mantissa := by omega
    have hcast : (2 + b.slack : ℚ) ≤ 4 * b.mantissa := by exact_mod_cast hnat
    linarith
  have hscale : (2 : ℚ) ^ (-1076 : ℤ) ≤ 2 ^ (b.exponent - 2) :=
    zpow_le_zpow_right₀ one_le_two (by have := hb.exponent_ge; omega)
  have hpow : (10 : ℚ) ^ (-331 : ℤ) ≤ 2 ^ (-1076 : ℤ) := by
    rw [zpow_neg, zpow_neg, inv_le_inv₀ (zpow_pos (by norm_num) _) (zpow_pos two_pos _)]
    exact_mod_cast two_pow_le_ten_pow (n := 1076) (k := 11) (r := 53) (s := 16)
      (by norm_num) (by norm_num) (by norm_num)
  calc
    (10 : ℚ) ^ (-331 : ℤ) ≤ 2 ^ (-1076 : ℤ) := hpow
    _ ≤ 2 ^ (b.exponent - 2) := hscale
    _ ≤ (4 * b.mantissa - b.slack) * 2 ^ (b.exponent - 2) :=
      le_mul_of_one_le_left (zpow_pos two_pos _).le (by linarith)
    _ ≤ q := h.low

/-- A power of two in units of another one. -/
theorem two_zpow_eq_units (t : ℕ) {e : ℤ} (he : -t ≤ e) :
    (2 : ℚ) ^ (e - 2) = 2 ^ (e + t).toNat / (4 * 2 ^ t) := by
  have hexponent : e - 2 = ((e + t).toNat : ℤ) - ((2 + t : ℕ) : ℤ) := by
    push_cast
    omega
  rw [hexponent, zpow_sub₀ two_ne_zero, zpow_natCast, zpow_natCast, pow_add]
  norm_num

/-- Comparing a decimal with a multiple of a power of two is comparing natural numbers of units. -/
theorem le_value_iff (a t : ℕ) {e : ℤ} (he : -t ≤ e) (d : Decimal) :
    (a * 2 ^ (e - 2) : ℚ) ≤ d.value ↔
      a * (2 ^ (e + t).toNat * 10 ^ (-d.exponent).toNat) ≤
        4 * (d.coefficient * 10 ^ d.exponent.toNat * 2 ^ t) := by
  rw [two_zpow_eq_units t he, Decimal.value_eq_div, mul_div_assoc',
    div_le_div_iff₀ (by positivity) (by positivity)]
  norm_cast
  constructor
  · intro h
    linarith
  · intro h
    linarith

theorem value_le_iff (a t : ℕ) {e : ℤ} (he : -t ≤ e) (d : Decimal) :
    d.value ≤ (a * 2 ^ (e - 2) : ℚ) ↔
      4 * (d.coefficient * 10 ^ d.exponent.toNat * 2 ^ t) ≤
        a * (2 ^ (e + t).toNat * 10 ^ (-d.exponent).toNat) := by
  rw [two_zpow_eq_units t he, Decimal.value_eq_div, mul_div_assoc',
    div_le_div_iff₀ (by positivity) (by positivity)]
  norm_cast
  constructor
  · intro h
    linarith
  · intro h
    linarith

theorem slack_eq {b : Binary} (hb : b.InRange) :
    Nearest.slack b.mantissa (b.exponent + 1074).toNat = b.slack := by
  have hge := hb.exponent_ge
  have hiff : (b.mantissa = 2 ^ 52 ∧ 0 < (b.exponent + 1074).toNat) ↔ b.atBoundary = true := by
    rw [hb.atBoundary_iff]
    omega
  simp only [Nearest.slack, slack, hiff]

/-- A decimal near a number rounds to the bits of that number. -/
theorem Near.bits_eq {b : Binary} {d : Decimal} (hb : b.InRange) (hpos : 0 < b.mantissa)
    (h : b.Near d.value) : Nearest.bits d = b.bits := by
  have hcoefficient : d.coefficient ≠ 0 := by
    intro hzero
    have hle := h.pow_le hb hpos
    rw [Decimal.value, hzero, Nat.cast_zero, zero_mul] at hle
    exact absurd (zpow_pos (by norm_num) _) hle.not_gt
  have hpoint : ¬d.point < -330 := by
    intro hlt
    have hle : (10 : ℚ) ^ d.point ≤ 10 ^ (-331 : ℤ) :=
      zpow_le_zpow_right₀ (by norm_num) (by omega)
    exact absurd (d.value_lt_point.trans_le hle) (h.pow_le hb hpos).not_gt
  have hpoint' : ¬310 < d.point := by
    intro hlt
    have hle : (10 : ℚ) ^ (310 : ℤ) ≤ 10 ^ (d.point - 1) :=
      zpow_le_zpow_right₀ (by norm_num) (by omega)
    have hbound := (hle.trans (Decimal.point_le_value hcoefficient)).trans (h.le_pow hb)
    rw [← zpow_natCast] at hbound
    exact absurd ((zpow_le_zpow_iff_right₀ (by norm_num)).1 hbound) (by norm_num)
  rw [Nearest.bits, if_neg (by tauto), if_neg hpoint', bits]
  have hge : -(1074 : ℕ) ≤ b.exponent := hb.exponent_ge
  have hle := hb.exponent_le
  have hlt := hb.mantissa_lt
  have hslack := b.slack_le
  have hcast : (4 * b.mantissa - b.slack : ℚ) = (4 * b.mantissa - b.slack : ℕ) := by
    rw [Nat.cast_sub (by omega)]
    push_cast
    rfl
  have hcast' : (4 * b.mantissa + 2 : ℚ) = (4 * b.mantissa + 2 : ℕ) := by
    push_cast
    rfl
  obtain ⟨hlow, hhigh, heven⟩ := h
  rw [hcast] at hlow heven
  rw [hcast'] at hhigh heven
  have hlow' := (le_value_iff _ 1074 hge d).1 hlow
  have hhigh' := (value_le_iff _ 1074 hge d).1 hhigh
  have hunits : 4 * b.mantissa * (2 ^ (b.exponent + (1074 : ℕ)).toNat * 10 ^ (-d.exponent).toNat) =
      (4 * b.mantissa - b.slack) *
          (2 ^ (b.exponent + (1074 : ℕ)).toNat * 10 ^ (-d.exponent).toNat) +
        b.slack * (2 ^ (b.exponent + (1074 : ℕ)).toNat * 10 ^ (-d.exponent).toNat) := by
    rw [← Nat.add_mul]
    congr 1
    omega
  apply Nearest.bitsOfFraction_eq (Nat.pow_pos (by norm_num)) hlt
  · have := hb.normal
    omega
  · rw [Nearest.infinityBits, Nearest.natPow_eq]
    omega
  · rw [slack_eq hb]
    exact hunits.trans_le (Nat.add_le_add_right hlow' _)
  · exact hhigh'
  · rw [slack_eq hb]
    rintro (hedge | hedge)
    · refine heven (Or.inl (le_antisymm ((value_le_iff _ 1074 hge d).2 ?_) hlow))
      exact (Nat.add_right_cancel (hunits.symm.trans hedge)).ge
    · exact heven (Or.inr (le_antisymm hhigh ((le_value_iff _ 1074 hge d).2 hedge.ge)))

end Binary

end EntityRelation
