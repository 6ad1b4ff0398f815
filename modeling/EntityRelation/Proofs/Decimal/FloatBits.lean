import EntityRelation.Decimal.FloatText
import EntityRelation.Proofs.Decimal.Shortest
import Mathlib

/-!
# The bits of a floating-point number

A finite floating-point number is its bits: a sign, eleven bits of exponent that are not all set,
and fifty-two bits of fraction. Packing what has been unpacked gives these bits again, so a finite
number is read back from its bits.
-/

namespace EntityRelation

namespace FloatBits

open Float.Model (Format)
open Float.Model.UnpackedFloat

/-- A bit pattern of the size of a floating-point number. -/
abbrev Packed := BitVec Format.binary64.numBits

theorem toNat_append {m n : ℕ} (x : BitVec m) (y : BitVec n) :
    (x ++ y).toNat = x.toNat * 2 ^ n + y.toNat := by
  rw [BitVec.toNat_append, ← Nat.shiftLeft_add_eq_or_of_lt y.isLt, Nat.shiftLeft_eq]

theorem toBitVec_ofBitVec (b : BitVec 1) : (Sign.ofBitVec b).toBitVec = b := by
  revert b
  decide

theorem toNat_unpackSign (b : Packed) : (unpackSign b).toNat = b.toNat / 2 ^ 63 := by
  have hlt : b.toNat < 2 ^ 64 := b.isLt
  simp only [unpackSign, BitVec.toNat_cast, BitVec.extractLsb_toNat, Nat.shiftRight_eq_div_pow]
  omega

theorem toNat_unpackExponent (b : Packed) :
    (unpackExponent b).toNat = b.toNat / 2 ^ 52 % 2 ^ 11 := by
  simp only [unpackExponent, BitVec.toNat_cast, BitVec.extractLsb_toNat,
    Nat.shiftRight_eq_div_pow]

theorem toNat_unpackMantissa (b : Packed) : (unpackMantissa b).toNat = b.toNat % 2 ^ 52 := by
  simp only [unpackMantissa, BitVec.toNat_cast, BitVec.extractLsb_toNat,
    Nat.shiftRight_eq_div_pow]
  omega

/-- The three parts of the bits make up all of them. -/
theorem packComponents_unpack (b : Packed) :
    packComponents Format.binary64 (Sign.ofBitVec (unpackSign b)) (unpackExponent b)
      (unpackMantissa b) = b := by
  rw [packComponents, toBitVec_ofBitVec]
  apply BitVec.eq_of_toNat_eq
  rw [toNat_append, toNat_append, toNat_unpackSign, toNat_unpackExponent, toNat_unpackMantissa]
  simp only [Format.binary64]
  omega

/-- Packing what has been unpacked from the bits of a finite number gives the bits again. -/
theorem pack_unpack {b : Packed} (h : unpackExponent b ≠ -1#_) :
    pack Format.binary64 (unpack Format.binary64 b) = b := by
  have hexponent : (unpackExponent b).toNat ≠ 2 ^ 11 - 1 := by
    intro heq
    exact h (BitVec.eq_of_toNat_eq heq)
  have hbound : (unpackExponent b).toNat < 2 ^ 11 := (unpackExponent b).isLt
  have hmantissa : (unpackMantissa b).toNat < 2 ^ 52 := (unpackMantissa b).isLt
  have hparts := packComponents_unpack b
  simp only [unpack, if_neg h]
  split
  · next hzero =>
    rw [hzero] at hparts
    split
    · next hempty =>
      rw [hempty] at hparts
      exact hparts
    · next hsome =>
      have hlog : (unpackMantissa b).toNat.log2 + 1 ≠ Format.binary64.mantissaBits := by
        have hpos : (unpackMantissa b).toNat ≠ 0 := fun heq => hsome (BitVec.eq_of_toNat_eq heq)
        have hlt := (Nat.log2_lt hpos).2 hmantissa
        simp only [Format.mantissaBits]
        omega
      rw [pack, if_neg, if_neg hlog, BitVec.ofNat_toNat, BitVec.setWidth_eq]
      · exact hparts
      · rw [hzero]
        decide
  · next hnonzero =>
    have hnat : (1#1 ++ unpackMantissa b).toNat = 2 ^ 52 + (unpackMantissa b).toNat := by
      rw [toNat_append]
      rfl
    have hlog : (2 ^ 52 + (unpackMantissa b).toNat).log2 + 1 = Format.binary64.mantissaBits := by
      have hle := (Nat.le_log2 (by omega)).2 (Nat.le_add_right (2 ^ 52) (unpackMantissa b).toNat)
      have hlt := (Nat.log2_lt (k := 53) (by omega)).2
        (show 2 ^ 52 + (unpackMantissa b).toNat < 2 ^ 53 by omega)
      simp only [Format.mantissaBits]
      omega
    have hbiased : ((unpackExponent b).toNat -
        ((Format.binary64.exponentBias : ℤ) + Format.binary64.mantissaBitsWithoutImplicit) +
        Format.binary64.exponentBias + Format.binary64.mantissaBitsWithoutImplicit).toNat =
        (unpackExponent b).toNat := by
      omega
    simp only [pack, hnat, hbiased, hlog, if_true]
    rw [if_neg (by simp only [Format.binary64]; omega), BitVec.ofNat_toNat, BitVec.setWidth_eq]
    refine Eq.trans ?_ hparts
    congr 1
    apply BitVec.eq_of_toNat_eq
    rw [BitVec.toNat_ofNat]
    simp only [Format.binary64]
    omega

theorem isFinite_eq (x : Float) :
    x.isFinite = (unpack Format.binary64 x.toBits.toBitVec).isFinite := rfl

/-- The exponent of a finite number is not all ones. -/
theorem unpackExponent_ne {x : Float} (h : x.isFinite) :
    @unpackExponent Format.binary64 x.toBits.toBitVec ≠ -1#_ := by
  intro heq
  rw [isFinite_eq, unpack] at h
  simp only [heq, if_true] at h
  split at h
  · exact Bool.false_ne_true h
  · exact Bool.false_ne_true h

/-- A finite number is read back from its bits. -/
theorem ofBits_toBits {x : Float} (h : x.isFinite) : Float.ofBits x.toBits = x := by
  have hpack := pack_unpack (unpackExponent_ne h)
  rcases x with ⟨⟨bits, valid⟩⟩
  have hbits : UInt64.ofBitVec (pack Format.binary64 (unpack Format.binary64 bits.toBitVec)) =
      bits := congrArg UInt64.ofBitVec hpack
  exact congrArg Float.ofModel (Float.Model.mk.injEq _ _ _ _ ▸ hbits)

theorem not_isNaN {x : Float} (h : x.isFinite) : x.isNaN = false := by
  have hmodel : x.isNaN = (unpack Format.binary64 x.toBits.toBitVec).isNaN := rfl
  rw [hmodel]
  rw [isFinite_eq] at h
  cases hunpack : unpack Format.binary64 x.toBits.toBitVec with
  | notANumber =>
      rw [hunpack] at h
      exact absurd h Bool.false_ne_true
  | infinity | zero | finite => rfl

theorem not_isInf {x : Float} (h : x.isFinite) : x.isInf = false := by
  have hmodel : x.isInf = (unpack Format.binary64 x.toBits.toBitVec).isInf := rfl
  rw [hmodel]
  rw [isFinite_eq] at h
  cases hunpack : unpack Format.binary64 x.toBits.toBitVec with
  | infinity =>
      rw [hunpack] at h
      exact absurd h Bool.false_ne_true
  | notANumber | zero | finite => rfl

theorem exponent_ne {x : Float} (h : x.isFinite) : x.toBits.toNat / 2 ^ 52 % 2 ^ 11 ≠ 2047 := by
  intro heq
  refine unpackExponent_ne h (BitVec.eq_of_toNat_eq ?_)
  rw [toNat_unpackExponent]
  exact heq

/-- A finite number lies in the range. -/
theorem inRange_ofFloat {x : Float} (h : x.isFinite) : (Binary.ofFloat x).InRange := by
  have hne := exponent_ne h
  simp only [Binary.ofFloat, Nearest.natPow_eq]
  split
  · next hzero =>
    constructor
    · simp only
      omega
    · simp only
      omega
    · simp only
      omega
    · exact Or.inl rfl
    · simp only [Bool.false_eq_true, false_iff]
      omega
  · next hnonzero =>
    constructor
    · simp only
      omega
    · simp only
      omega
    · simp only
      omega
    · simp only
      omega
    · simp only [decide_eq_true_eq]
      omega

/-- The bits of a number are its sign and the bits of its absolute value. -/
theorem toNat_toBits (x : Float) :
    x.toBits.toNat =
      (Binary.ofFloat x).bits + if FloatText.isNegative x then Nat.pow 2 63 else 0 := by
  have hlt : x.toBits.toNat < 2 ^ 64 := x.toBits.toNat_lt
  simp only [Binary.ofFloat, FloatText.isNegative, Nearest.natPow_eq, decide_eq_true_eq]
  split
  · next hzero =>
    simp only [Binary.bits]
    split
    · omega
    · omega
  · next hnonzero =>
    simp only [Binary.bits]
    split
    · omega
    · omega

end FloatBits

end EntityRelation
