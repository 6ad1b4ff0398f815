import EntityRelation.Decimal.Basic

/-!
# The shortest decimal of a floating-point number

A finite positive floating-point number is a mantissa times a power of two. Every real number
nearer to it than to its neighbours reads back as it, the ends of that interval included when the
mantissa is even. `Binary.shortest` is the decimal with the fewest digits in the interval: for
one digit, two digits and so on it looks at the two points of that decimal grid around the number
and stops at the first grid with a point inside. Of two such points the nearer is taken, and when both
are as near a `Tie` decides. All arithmetic is on natural numbers.
-/

namespace EntityRelation

/-- Which of two whole numbers stands for a number halfway between them. -/
inductive Tie where
  | up
  | even
  deriving DecidableEq, Repr

/-- Whether a number halfway between `below` and its successor goes up. -/
def Tie.goesUp (below : Nat) : Tie → Bool
  | up => true
  | even => below % 2 = 1

/-- The number `mantissa * 2 ^ exponent`. It is `atBoundary` when its lower neighbour is half as
far away as its upper one. -/
structure Binary where
  mantissa : Nat
  exponent : Int
  atBoundary : Bool

namespace Binary

/-- The absolute value of a finite floating-point number. -/
def ofFloat (x : Float) : Binary :=
  let bits : Nat := x.toBits.toNat
  let fraction : Nat := bits % Nat.pow 2 52
  let exponent : Nat := bits / Nat.pow 2 52 % Nat.pow 2 11
  if exponent = 0 then
    ⟨fraction, -1074, false⟩
  else
    ⟨Nat.pow 2 52 + fraction, (exponent : Int) - 1075, fraction = 0 ∧ 1 < exponent⟩

/-- The interval of real numbers that read back as a number, as numerators over one denominator. -/
structure Interval where
  low : Nat
  middle : Nat
  high : Nat
  denominator : Nat
  closed : Bool

/-- The interval around a number, in quarters of the unit of its last place. -/
def interval (b : Binary) : Interval :=
  let scale := Nat.pow 2 (b.exponent - 2).toNat
  { low := (4 * b.mantissa - if b.atBoundary then 1 else 2) * scale
    middle := 4 * b.mantissa * scale
    high := (4 * b.mantissa + 2) * scale
    denominator := Nat.pow 2 (2 - b.exponent).toNat
    closed := b.mantissa % 2 = 0 }

/-- The numerators multiplied by one factor and the denominator by another. -/
def Interval.scale (i : Interval) (up down : Nat) : Interval :=
  { i with
    low := i.low * up
    middle := i.middle * up
    high := i.high * up
    denominator := i.denominator * down }

/-- Whether the whole number `k` lies in the interval. -/
def Interval.contains (i : Interval) (k : Nat) : Bool :=
  let value := k * i.denominator
  if i.closed then i.low ≤ value && value ≤ i.high else i.low < value && value < i.high

/-- The whole number of the interval next to its middle. -/
def Interval.nearest? (i : Interval) (tie : Tie) : Option Nat :=
  let below := i.middle / i.denominator
  let above := below + 1
  if i.contains below && i.contains above then
    match compare (i.middle - below * i.denominator) (above * i.denominator - i.middle) with
    | .lt => some below
    | .eq => some (if tie.goesUp below then above else below)
    | .gt => some above
  else if i.contains below then
    some below
  else if i.contains above then
    some above
  else
    none

/-- How far a fraction has to be moved to the left to reach one, counted in decimal places. -/
def leadingZeros (denominator : Nat) : Nat → Nat → Nat
  | 0, _ => 0
  | fuel + 1, numerator =>
    if denominator ≤ numerator * 10 then 0
    else leadingZeros denominator fuel (numerator * 10) + 1

/-- The power of ten just above the middle of the interval. Three hundred and thirty places are
more than the smallest positive number needs. -/
def Interval.magnitude (i : Interval) : Int :=
  if i.denominator ≤ i.middle then
    (Nat.toDigits 10 (i.middle / i.denominator)).length
  else
    -(leadingZeros i.denominator 330 i.middle : Int)

/-- The point of the grid of `count` digits that reads back as the number. -/
def Interval.onGrid? (i : Interval) (tie : Tie) (count : Nat) : Option Decimal :=
  let unit := i.magnitude - count
  let scaled := i.scale (Nat.pow 10 (-unit).toNat) (Nat.pow 10 unit.toNat)
  (scaled.nearest? tie).map fun k =>
    if k = Nat.pow 10 count then ⟨1, unit + count⟩ else ⟨k, unit⟩

/-- The shortest decimal that reads back as a positive number. Seventeen digits always do. -/
def shortest (b : Binary) (tie : Tie) : Decimal :=
  ((List.range' 1 17).findSome? (b.interval.onGrid? tie)).getD ⟨0, 0⟩

end Binary

end EntityRelation
