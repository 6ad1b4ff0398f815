import EntityRelation.Json.Basic
import EntityRelation.Text.Digit

/-!
# Reading JSON numbers

Digits are collected into one word of sixty-four bits. A number without point or exponent stays
whole as long as it fits the word, or the signed word when it is negative. Any other number is the
collected word scaled by a single power of ten, so that digits the word has no room for are
dropped, and the scaling rounds once more. A number that would be infinite is not read at all.
-/

namespace EntityRelation

namespace Json

/-- The largest value of the word that collects digits. -/
def wordLimit : Nat := Nat.pow 2 64 - 1

/-- Digits appended to a word until the next one no longer fits; the second component counts the
digits taken in. -/
def collect (word : Nat) : List Char → Nat × Nat
  | [] => (word, 0)
  | c :: rest =>
    let longer := 10 * word + Text.digitValue c
    if longer ≤ wordLimit then
      let (final, taken) := collect longer rest
      (final, taken + 1)
    else
      (word, 0)

/-- A power of ten that a floating-point number can hold. -/
def powerOfTen (n : Nat) : Float :=
  Float.ofScientific 1 false n

/-- A number scaled by a power of ten: one multiplication, or divisions by at most `1e308` each.
Nothing is left after the third division. -/
def scale (x : Float) : Nat → Int → Option Float
  | 0, _ => some 0.0
  | steps + 1, exponent =>
    if exponent.natAbs ≤ 308 then
      if 0 ≤ exponent then
        let y := x * powerOfTen exponent.natAbs
        if y.isInf then none else some y
      else
        some (x / powerOfTen exponent.natAbs)
    else if x == 0.0 then some x
    else if 0 ≤ exponent then none
    else scale (x / powerOfTen 308) steps (exponent + 308)

/-- The floating-point number `word * 10 ^ exponent` with a sign. -/
def scaled (negative : Bool) (word : Nat) (exponent : Int) : Option Json :=
  (scale (Float.ofNat word) 4 exponent).map fun x => float (if negative then -x else x)

/-- The largest exponent that is computed with; beyond it only the sign of the exponent counts. -/
def exponentLimit : Nat := Nat.pow 2 31 - 1

/-- The value of exponent digits, none when they pass the limit. -/
def exponentValue? (digits : List Char) : Option Nat :=
  let value := digits.foldl (fun n c => min (exponentLimit + 1) (10 * n + Text.digitValue c)) 0
  if value ≤ exponentLimit then some value else none

/-- What follows the mark of an exponent, for a number `word * 10 ^ base`. -/
def exponentPart (negative : Bool) (word : Nat) (base : Int) (cs : List Char) :
    Option (Json × List Char) :=
  let (down, cs) :=
    match cs with
    | '+' :: rest => (false, rest)
    | '-' :: rest => (true, rest)
    | _ => (false, cs)
  let digits := cs.takeWhile Char.isDigit
  let rest := cs.dropWhile Char.isDigit
  if digits.isEmpty then none
  else
    match exponentValue? digits with
    | some value =>
      (scaled negative word (if down then base - value else base + value)).map (·, rest)
    | none =>
      if word ≠ 0 ∧ !down then none
      else some (float (if negative then -0.0 else 0.0), rest)

/-- The end of a number that has a point or an exponent. -/
def realPart (negative : Bool) (word : Nat) (base : Int) (cs : List Char) :
    Option (Json × List Char) :=
  match cs with
  | 'e' :: rest | 'E' :: rest => exponentPart negative word base rest
  | _ => (scaled negative word base).map (·, cs)

/-- A whole number that fits the word. Minus zero is a floating-point number, and so is a negative
number below the signed word. -/
def whole (negative : Bool) (word : Nat) : Json :=
  if !negative then integer word
  else if word = 0 ∨ Nat.pow 2 63 < word then float (-(Float.ofNat word))
  else integer (-word)

/-- Read a number after its sign. -/
def unsignedNumber? (negative : Bool) (cs : List Char) : Option (Json × List Char) :=
  let digits := cs.takeWhile Char.isDigit
  let rest := cs.dropWhile Char.isDigit
  if digits.isEmpty ∨ (digits.head? = some '0' ∧ 1 < digits.length) then none
  else
    let (word, taken) := collect 0 digits
    let base : Int := (digits.length - taken : Nat)
    match rest with
    | '.' :: more =>
      let fraction := more.takeWhile Char.isDigit
      if fraction.isEmpty then none
      else
        let (word, kept) := collect word fraction
        realPart negative word (base - kept) (more.dropWhile Char.isDigit)
    | 'e' :: more | 'E' :: more => exponentPart negative word base more
    | _ =>
      if base = 0 then some (whole negative word, rest)
      else (scaled negative word base).map (·, rest)

/-- Read a number. -/
def number? : List Char → Option (Json × List Char)
  | '-' :: rest => unsignedNumber? true rest
  | cs => unsignedNumber? false cs

end Json

end EntityRelation
