/-!
# Digits

Decimal and hexadecimal digits and the numbers they spell. Only ASCII digits count.
-/

namespace EntityRelation

namespace Text

/-- The value of a decimal digit. -/
def digitValue (c : Char) : Nat :=
  c.toNat - '0'.toNat

/-- The number that decimal digits spell. -/
def decimalValue (ds : List Char) : Nat :=
  ds.foldl (fun n d => 10 * n + digitValue d) 0

@[simp] theorem decimalValue_nil : decimalValue [] = 0 := rfl

theorem decimalValue_append_singleton (ds : List Char) (d : Char) :
    decimalValue (ds ++ [d]) = 10 * decimalValue ds + digitValue d := by
  simp [decimalValue]

/-- The value of a hexadecimal digit. -/
def hexDigitValue? (c : Char) : Option Nat :=
  if c.isDigit then some (digitValue c)
  else if 'a' ≤ c ∧ c ≤ 'f' then some (c.toNat - 'a'.toNat + 10)
  else if 'A' ≤ c ∧ c ≤ 'F' then some (c.toNat - 'A'.toNat + 10)
  else none

/-- Whether a character is a hexadecimal digit. -/
def isHexDigit (c : Char) : Bool :=
  (hexDigitValue? c).isSome

/-- The number that hexadecimal digits spell, if nothing else stands among them. -/
def hexValue? (ds : List Char) : Option Nat :=
  ds.foldlM (fun n d => (hexDigitValue? d).map (16 * n + ·)) 0

@[simp] theorem hexValue?_nil : hexValue? [] = some 0 := rfl

theorem hexValue?_append_singleton (ds : List Char) (d : Char) :
    hexValue? (ds ++ [d]) =
      (hexValue? ds).bind fun n => (hexDigitValue? d).map (16 * n + ·) := by
  simp [hexValue?, List.foldlM_append]

end Text

end EntityRelation
