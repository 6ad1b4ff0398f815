import EntityRelation.Json.Decode
import EntityRelation.Text.Bytes
import EntityRelation.Text.Digit

/-!
# Universally unique ids

A UUID is a word of one hundred and twenty-eight bits. It is written as five groups of hexadecimal
digits with hyphens between them, and read in that form, as plain digits, between braces, or after
`urn:uuid:` in letters of either case.
-/

namespace EntityRelation

/-- A universally unique id. -/
structure Uuid where
  bits : BitVec 128
  deriving DecidableEq, Repr, Inhabited

/-- Why a text is no UUID. -/
inductive UuidFault where
  | badCharacter (c : Char) (position : Nat)
  | badLength (length : Nat)
  | badGroupCount (count : Nat)
  | badGroupLength (group length : Nat)
  deriving DecidableEq, Repr

namespace UuidFault

/-- The lengths of the five groups. -/
def groupLengths : List Nat := [8, 4, 4, 4, 12]

/-- The wording of a fault. -/
def message : UuidFault → String
  | badCharacter c position =>
    "invalid character: found \x60" ++ String.ofList [c] ++ "\x60 at " ++ toString position
  | badLength length => "invalid length: found " ++ toString length
  | badGroupCount count => "invalid group count: expected 5, found " ++ toString count
  | badGroupLength group length =>
    "invalid group length in group " ++ toString group ++ ": expected " ++
      toString (groupLengths.getD group 0) ++ ", found " ++ toString length

end UuidFault

namespace Uuid

/-- The UUID of zeros. -/
def nil : Uuid := ⟨0⟩

/-- The thirty-two digits. -/
def hexDigits (u : Uuid) : List Char :=
  let digits := Nat.toDigits 16 u.bits.toNat
  List.replicate (32 - digits.length) '0' ++ digits

/-- Digits cut into groups of the given lengths. -/
def groups : List Nat → List Char → List (List Char)
  | [], _ => []
  | n :: lengths, ds => ds.take n :: groups lengths (ds.drop n)

/-- The text of a UUID. -/
def toText (u : Uuid) : String :=
  String.ofList (['-'].intercalate (groups UuidFault.groupLengths u.hexDigits))

/-- What may stand in front of the groups. -/
def scheme : List Char := "urn:uuid:".toList

/-- The length of the five groups with their hyphens. -/
def groupsLength : Nat := 36

/-- The length of the longest form: the scheme and the groups. -/
def longestForm : Nat := scheme.length + groupsLength

/-- Whether a text is as long as the groups, and so has to be the groups, whatever it holds. -/
def fitsGroups (cs : List Char) : Bool :=
  Text.byteLength cs = groupsLength

/-- The part of a text that spells the number. -/
structure Body where
  digits : List Char
  /-- How many characters stand in front of it. -/
  start : Nat
  /-- Whether it may be digits alone. -/
  mayBePlain : Bool
  deriving DecidableEq, Repr

/-- What stands inside braces or after the scheme. Only where there is neither, it may be digits
alone. -/
def Body.of (cs : List Char) : Body :=
  if fitsGroups cs then ⟨cs, 0, false⟩
  else if cs.head? = some '\x7b' ∧ cs.getLast? = some '\x7d' ∧ 1 < cs.length then
    ⟨(cs.drop 1).dropLast, 1, false⟩
  else if (cs.take scheme.length).map Char.toLower = scheme then
    ⟨cs.drop scheme.length, scheme.length, false⟩
  else ⟨cs, 0, true⟩

/-- Where the places in a body are counted from: from its own start if it has to be the groups, and
else from the start of the text. -/
def Body.origin (b : Body) : Nat :=
  if fitsGroups b.digits then 0 else b.start

/-- The first character that is neither a digit nor a hyphen, with its place in bytes. The text
starts at `position`. -/
def badCharacter? (position : Nat) : List Char → Option UuidFault
  | [] => none
  | c :: rest =>
    if Text.isHexDigit c || c = '-' then badCharacter? (position + 1) rest
    else some (.badCharacter c position)

/-- The first group of a wrong length. The length of the last group counts to the end of the whole
text. -/
def badGroup (whole : List Char) : Nat → List Nat → List (List Char) → UuidFault
  | index, n :: m :: lengths, g :: groups =>
    if g.length = n then badGroup whole (index + 1) (m :: lengths) groups
    else .badGroupLength index g.length
  | index, _, _ => .badGroupLength index (Text.byteLength whole - 24)

/-- What is wrong with a text that is no UUID. The characters of a text longer than every form are
not looked at. -/
def faultOf (cs : List Char) : UuidFault :=
  let length := Text.byteLength cs
  let body := Body.of cs
  if longestForm < length then .badLength length
  else
    match badCharacter? body.origin body.digits with
    | some fault => fault
    | none =>
      let parts := body.digits.splitOn '-'
      if parts.length = 1 ∧ body.mayBePlain then .badLength length
      else if parts.length ≠ 5 then .badGroupCount parts.length
      else badGroup cs 0 UuidFault.groupLengths parts

/-- The number that a text spells in one of its forms. -/
def value? (cs : List Char) : Option Nat :=
  let body := Body.of cs
  let parts := body.digits.splitOn '-'
  if body.mayBePlain && cs.length = 32 then Text.hexValue? cs
  else if parts.map List.length = UuidFault.groupLengths then Text.hexValue? parts.flatten
  else none

/-- Read a UUID. -/
def parse (text : String) : Except UuidFault Uuid :=
  match value? text.toList with
  | some n => .ok ⟨BitVec.ofNat 128 n⟩
  | none => .error (faultOf text.toList)

/-- Read a UUID from JSON. -/
def ofJson : Decoder Uuid
  | .text s => (parse s).mapError fun fault => .malformed ("UUID parsing failed: " ++ fault.message)
  | j => .error (.wrongKind j "a UUID string")

end Uuid

end EntityRelation
