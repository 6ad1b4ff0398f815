import EntityRelation.Proofs.Decimal.FloatBits

/-!
# The order of floating-point numbers

A finite floating-point number is a whole number of units of `2 ^ -1074` (`units`), and stands for
a rational number (`value`). Its exponent is as small as its mantissa of 53 bits allows, so numbers
are compared by their exponents first, and comparing two finite numbers is comparing what they stand
for (`lt_iff_value_lt`).
-/

namespace EntityRelation

namespace FloatBits

open Float.Model (Format)
open Float.Model.UnpackedFloat

/-- How many units of `2 ^ -1074` an unpacked number is. What is no number is none. -/
def unpackedUnits : Float.Model.UnpackedFloat → ℤ
  | .finite s m e _ => s.apply (m * 2 ^ (e + 1074).toNat : ℕ)
  | _ => 0

/-- How many units of `2 ^ -1074` a floating-point number is. -/
def units (x : Float) : ℤ :=
  unpackedUnits (unpack Format.binary64 x.toBits.toBitVec)

/-- The number that a floating-point number stands for. -/
def value (x : Float) : ℚ :=
  units x / 2 ^ 1074

/-- The mantissa and the exponent of a number as they are unpacked. -/
structure IsUnpacked (m : ℕ) (e : ℤ) : Prop where
  mantissa_lt : m < 2 ^ 53
  le_exponent : -1074 ≤ e
  le_mantissa : -1074 < e → 2 ^ 52 ≤ m

theorem isUnpacked_of_unpack {b : Packed} {s : Sign} {m : ℕ} {e : ℤ} {hm : 0 < m}
    (h : unpack Format.binary64 b = .finite s m e hm) : IsUnpacked m e := by
  have hmantissa : (unpackMantissa b).toNat < 2 ^ 52 := (unpackMantissa b).isLt
  simp only [unpack] at h
  split at h
  · split at h <;> cases h
  · split at h
    · next hzero =>
      split at h
      · cases h
      · injection h with _ hm he
        subst hm he
        rw [hzero]
        constructor
        · omega
        · decide
        · exact fun hlt => absurd hlt (by decide)
    · next hnonzero =>
      injection h with _ hm he
      have hnat : (1#1 ++ unpackMantissa b).toNat = 2 ^ 52 + (unpackMantissa b).toNat := by
        rw [toNat_append]
        rfl
      have hpos : 0 < (unpackExponent b).toNat :=
        Nat.pos_of_ne_zero fun heq => hnonzero (BitVec.eq_of_toNat_eq heq)
      subst hm he
      rw [hnat]
      refine ⟨by omega, ?_, fun _ => by omega⟩
      simp only [Format.exponentBias, Format.binary64]
      omega

/-- A number with a smaller exponent is smaller. -/
theorem IsUnpacked.units_lt {m n : ℕ} {e k : ℤ} (hm : IsUnpacked m e) (hn : IsUnpacked n k)
    (hlt : e < k) : m * 2 ^ (e + 1074).toNat < n * 2 ^ (k + 1074).toNat := by
  have hle := hm.le_exponent
  have hnormal := hn.le_mantissa (by omega)
  have hexponent : (e + 1074).toNat + 1 ≤ (k + 1074).toNat := by omega
  calc m * 2 ^ (e + 1074).toNat < 2 ^ 53 * 2 ^ (e + 1074).toNat :=
        Nat.mul_lt_mul_of_pos_right hm.mantissa_lt (Nat.two_pow_pos _)
    _ = 2 ^ 52 * 2 ^ ((e + 1074).toNat + 1) := by rw [pow_succ]; ring
    _ ≤ 2 ^ 52 * 2 ^ (k + 1074).toNat :=
        Nat.mul_le_mul_left _ (Nat.pow_le_pow_right (by decide) hexponent)
    _ ≤ n * 2 ^ (k + 1074).toNat := Nat.mul_le_mul_right _ hnormal

/-- Exponents first and then mantissas is the order of the numbers. -/
theorem compare_of_isUnpacked {m n : ℕ} {e k : ℤ} (hm : IsUnpacked m e) (hn : IsUnpacked n k) :
    (compare e k).then (compare m n) =
      compare (m * 2 ^ (e + 1074).toNat) (n * 2 ^ (k + 1074).toNat) := by
  rcases lt_trichotomy e k with hlt | rfl | hlt
  · rw [compare_lt_iff_lt.2 hlt, compare_lt_iff_lt.2 (hm.units_lt hn hlt)]
    rfl
  · have hpos : 0 < 2 ^ (e + 1074).toNat := Nat.two_pow_pos _
    rw [compare_eq_iff_eq.2 rfl]
    rcases lt_trichotomy m n with hlt | rfl | hlt
    · rw [compare_lt_iff_lt.2 hlt, compare_lt_iff_lt.2 (Nat.mul_lt_mul_of_pos_right hlt hpos)]
      rfl
    · rw [compare_eq_iff_eq.2 rfl, compare_eq_iff_eq.2 rfl]
      rfl
    · rw [compare_gt_iff_gt.2 hlt, compare_gt_iff_gt.2 (Nat.mul_lt_mul_of_pos_right hlt hpos)]
      rfl
  · rw [compare_gt_iff_gt.2 hlt, compare_gt_iff_gt.2 (hn.units_lt hm hlt)]
    rfl

theorem lt_iff_compare (x y : Float) : x < y ↔ (unpack Format.binary64 x.toBits.toBitVec).compare
    (unpack Format.binary64 y.toBits.toBitVec) = some .lt := by
  change (decide _) = true ↔ _
  rw [decide_eq_true_iff]
  change (_ == _) = true ↔ _
  exact beq_iff_eq

theorem unpackedUnits_pos {m : ℕ} (hm : 0 < m) (e : ℤ) :
    (0 : ℤ) < (m * 2 ^ (e + 1074).toNat : ℕ) :=
  Int.natCast_pos.2 (Nat.mul_pos hm (Nat.two_pow_pos _))

theorem compare_zero_iff (s s' : Sign) {m : ℕ} (e : ℤ) (hm : 0 < m) :
    (Float.Model.UnpackedFloat.compare (.zero s) (.finite s' m e hm) = some .lt ↔
      0 < unpackedUnits (.finite s' m e hm)) ∧
    (Float.Model.UnpackedFloat.compare (.finite s' m e hm) (.zero s) = some .lt ↔
      unpackedUnits (.finite s' m e hm) < 0) := by
  have hpos := unpackedUnits_pos hm e
  cases s' with
  | positive => exact ⟨iff_of_true rfl hpos, iff_of_false nofun hpos.le.not_gt⟩
  | negative =>
      have hneg := neg_neg_of_pos hpos
      exact ⟨iff_of_false nofun hneg.le.not_gt, iff_of_true rfl hneg⟩

theorem compare_finite_iff (s s' : Sign) {m n : ℕ} {e k : ℤ} (hm : 0 < m) (hn : 0 < n)
    (hme : IsUnpacked m e) (hnk : IsUnpacked n k) :
    Float.Model.UnpackedFloat.compare (.finite s m e hm) (.finite s' n k hn) = some .lt ↔
      unpackedUnits (.finite s m e hm) < unpackedUnits (.finite s' n k hn) := by
  have hmpos := unpackedUnits_pos hm e
  have hnpos := unpackedUnits_pos hn k
  cases s with
  | positive =>
      cases s' with
      | positive =>
          change some ((compare e k).then (compare m n)) = some .lt ↔ _
          rw [compare_of_isUnpacked hme hnk, Option.some_inj, compare_lt_iff_lt]
          exact Int.ofNat_lt.symm
      | negative =>
          exact iff_of_false nofun ((neg_neg_of_pos hnpos).trans hmpos).le.not_gt
  | negative =>
      cases s' with
      | positive => exact iff_of_true rfl ((neg_neg_of_pos hmpos).trans hnpos)
      | negative =>
          change some ((compare e k).then (compare m n)).swap = some .lt ↔ _
          rw [compare_of_isUnpacked hme hnk, Option.some_inj, Ordering.swap_eq_lt,
            compare_gt_iff_gt]
          exact Int.ofNat_lt.symm.trans neg_lt_neg_iff.symm

/-- Comparing two finite numbers is comparing how many units they are. -/
theorem lt_iff_units_lt {x y : Float} (hx : x.isFinite) (hy : y.isFinite) :
    x < y ↔ units x < units y := by
  rw [lt_iff_compare, units, units]
  rw [isFinite_eq] at hx hy
  cases hux : unpack Format.binary64 x.toBits.toBitVec with
  | notANumber => simp [hux, isFinite] at hx
  | infinity s => simp [hux, isFinite] at hx
  | zero s =>
      cases huy : unpack Format.binary64 y.toBits.toBitVec with
      | notANumber => simp [huy, isFinite] at hy
      | infinity s' => simp [huy, isFinite] at hy
      | zero s' => exact iff_of_false nofun (lt_irrefl (0 : ℤ))
      | finite s' n k hn => exact (compare_zero_iff s s' k hn).1
  | finite s m e hm =>
      cases huy : unpack Format.binary64 y.toBits.toBitVec with
      | notANumber => simp [huy, isFinite] at hy
      | infinity s' => simp [huy, isFinite] at hy
      | zero s' => exact (compare_zero_iff s' s e hm).2
      | finite s' n k hn =>
          exact compare_finite_iff s s' hm hn (isUnpacked_of_unpack hux) (isUnpacked_of_unpack huy)

/-- Comparing two finite numbers is comparing what they stand for. -/
theorem lt_iff_value_lt {x y : Float} (hx : x.isFinite) (hy : y.isFinite) :
    x < y ↔ value x < value y := by
  have hpos : (0 : ℚ) < 2 ^ 1074 := by positivity
  rw [lt_iff_units_lt hx hy, value, value, div_lt_div_iff_of_pos_right hpos, Int.cast_lt]

end FloatBits

end EntityRelation
