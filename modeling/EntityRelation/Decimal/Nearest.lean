import EntityRelation.Decimal.Basic

/-!
# The floating-point number nearest to a decimal

The non-negative floating-point numbers are numbered in their order by their bits: the number with
the bits `k * 2 ^ 52 + m`, where `m` is below `2 ^ 53`, is `m * 2 ^ k` units, and a unit is
`2 ^ -1074`. So the number nearest to a fraction is found by rounding a quotient of natural numbers,
with a half going to the even neighbour. A quotient that is rounded up to `2 ^ 53` carries into
`k`, and everything from the bits of infinity on is infinity.
-/

namespace EntityRelation

namespace Nearest

/-- The quotient of two numbers, rounded to the nearest number, a half to the even one. -/
def roundedQuotient (numerator denominator : Nat) : Nat :=
  let q := numerator / denominator
  let rest := 2 * (numerator % denominator)
  if denominator < rest ∨ (rest = denominator ∧ q % 2 = 1) then q + 1 else q

/-- How often a number of units has to be halved until it is below `2 ^ 53`. -/
def halvings (units : Nat) : Nat :=
  units.log2 - 52

/-- The bits of infinity. -/
def infinityBits : Nat := 2047 * Nat.pow 2 52

/-- The bits of the number nearest to a fraction. -/
def bitsOfFraction (numerator denominator : Nat) : Nat :=
  let units := numerator * Nat.pow 2 1074
  let k := halvings (units / denominator)
  min (k * Nat.pow 2 52 + roundedQuotient units (denominator * Nat.pow 2 k)) infinityBits

/-- The bits of the number nearest to a decimal. Powers of ten far outside the range are decided
by the number of digits alone. -/
def bits (d : Decimal) : Nat :=
  if d.coefficient = 0 ∨ d.point < -330 then 0
  else if 310 < d.point then infinityBits
  else
    bitsOfFraction (d.coefficient * Nat.pow 10 d.exponent.toNat) (Nat.pow 10 (-d.exponent).toNat)

end Nearest

/-- The floating-point number nearest to a decimal, with a sign. -/
def Decimal.toFloat (d : Decimal) (negative : Bool) : Float :=
  Float.ofBits (UInt64.ofNat (Nearest.bits d + if negative then Nat.pow 2 63 else 0))

end EntityRelation
