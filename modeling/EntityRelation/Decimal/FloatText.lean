import EntityRelation.Decimal.Nearest
import EntityRelation.Decimal.Shortest
import EntityRelation.Text.Digit

/-!
# Floating-point numbers as text

Two written forms share the shortest digits. `FloatText.plain` never uses an exponent and writes
whole numbers without a point; it is the form of coordinates inside a script. `FloatText.json`
keeps a point in whole numbers and goes over to an exponent outside `1e-5 ≤ x < 1e16`. Of two
equally near digits the plain form takes the greater and the JSON form the even one. Reading a
coordinate back with `FloatText.parse?` accepts a sign, digits with at most one point, an
exponent, and the names of infinity and of not-a-number.
-/

namespace EntityRelation

namespace FloatText

/-- Whether the sign bit is set, as it is for `-0.0`. -/
def isNegative (x : Float) : Bool :=
  x.toBits.toNat ≥ Nat.pow 2 63

/-- The absolute value of a finite number as the shortest decimal. -/
def magnitude (tie : Tie) (x : Float) : Decimal :=
  let b := Binary.ofFloat x
  if b.mantissa = 0 then ⟨0, 0⟩ else b.shortest tie

/-- A sign in front of a text when the number is negative. -/
def signed (x : Float) (text : List Char) : String :=
  String.ofList (if isNegative x then '-' :: text else text)

/-- A coordinate without exponent: `100`, `120.5`, `-0`, `NaN`, `inf`. -/
def plain (x : Float) : String :=
  if x.isNaN then "NaN"
  else if x.isInf then signed x "inf".toList
  else signed x (magnitude .up x).positional

/-- The JSON form of a finite decimal: `100.0`, `120.5`, `1e+16`, `1.5e-7`. -/
def jsonDecimal (d : Decimal) : List Char :=
  if d.coefficient = 0 then ['0', '.', '0']
  else if d.point ≤ -5 ∨ 16 < d.point then d.scientific
  else if 0 ≤ d.exponent then d.positional ++ ['.', '0']
  else d.positional

/-- The JSON number of a finite floating-point number. -/
def json (x : Float) : String :=
  signed x (jsonDecimal (magnitude .even x))

/-- A whole number with an optional sign. -/
def signedDigits? (cs : List Char) : Option Int :=
  let number (ds : List Char) : Option Nat :=
    if ds.isEmpty || !ds.all Char.isDigit then none else some (Text.decimalValue ds)
  match cs with
  | '+' :: ds => (number ds).map Int.ofNat
  | '-' :: ds => (number ds).map fun n => -(Int.ofNat n)
  | ds => (number ds).map Int.ofNat

/-- A decimal: digits around at most one point, then an exponent. -/
def decimal? (cs : List Char) : Option Decimal :=
  let whole := cs.takeWhile Char.isDigit
  let afterWhole := cs.dropWhile Char.isDigit
  let (fraction, rest) :=
    match afterWhole with
    | '.' :: more => (more.takeWhile Char.isDigit, more.dropWhile Char.isDigit)
    | _ => ([], afterWhole)
  if whole.isEmpty && fraction.isEmpty then none
  else
    let value (exponent : Int) : Decimal :=
      ⟨Text.decimalValue (whole ++ fraction), exponent - fraction.length⟩
    match rest with
    | [] => some (value 0)
    | c :: exponent =>
      if c = 'e' || c = 'E' then (signedDigits? exponent).map value else none

/-- A number without its sign: a decimal or a name. -/
def unsigned? (negative : Bool) (cs : List Char) : Option Float :=
  match String.ofList (cs.map Char.toLower) with
  | "inf" | "infinity" => some (if negative then -1.0 / 0.0 else 1.0 / 0.0)
  | "nan" => some (0.0 / 0.0)
  | _ => (decimal? cs).map (·.toFloat negative)

/-- Read a coordinate. -/
def parse? (cs : List Char) : Option Float :=
  match cs with
  | '-' :: rest => unsigned? true rest
  | '+' :: rest => unsigned? false rest
  | _ => unsigned? false cs

end FloatText

end EntityRelation
