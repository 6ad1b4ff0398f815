/-!
# Decimal numbers

A non-negative decimal number is a coefficient and a power of ten. `Decimal.digits` are the digits
of the coefficient and `Decimal.point` is where the decimal point stands among them: before the
first digit for `0`, after the third for `3`. Both printers of floating-point numbers are written
in these two words.
-/

namespace EntityRelation

/-- The number `coefficient * 10 ^ exponent`. -/
structure Decimal where
  coefficient : Nat
  exponent : Int
  deriving DecidableEq, Repr

namespace Decimal

/-- The digits of the coefficient, most significant first. -/
def digits (d : Decimal) : List Char :=
  Nat.toDigits 10 d.coefficient

/-- How many digits stand before the decimal point; negative when zeros follow it. -/
def point (d : Decimal) : Int :=
  d.digits.length + d.exponent

/-- The number written without an exponent, and without a point when it is whole. -/
def positional (d : Decimal) : List Char :=
  if 0 ≤ d.exponent then
    d.digits ++ List.replicate d.exponent.toNat '0'
  else if 0 < d.point then
    d.digits.take d.point.toNat ++ '.' :: d.digits.drop d.point.toNat
  else
    '0' :: '.' :: List.replicate (-d.point).toNat '0' ++ d.digits

/-- The number in scientific notation, with a sign before the exponent: `1e+30`, `1.5e-7`. -/
def scientific (d : Decimal) : List Char :=
  let exponent := d.point - 1
  let sign := if 0 ≤ exponent then '+' else '-'
  let power := 'e' :: sign :: Nat.toDigits 10 exponent.natAbs
  match d.digits with
  | [] => power
  | [c] => c :: power
  | c :: rest => c :: '.' :: rest ++ power

end Decimal

end EntityRelation
