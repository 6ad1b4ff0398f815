import EntityRelation.Json.Basic
import EntityRelation.Decimal.FloatText
import EntityRelation.Text.Printable

/-!
# Decoding JSON values

A decoder turns a JSON value into a domain value or says why it cannot. A record is decoded from
an object whose members are visited in the order of their keys: the first member of a wrong kind
is the error, and only when all are right does a missing member count, the first one in the order
the record declares. Unknown members are passed over. A record may also be written as an array of
its members in that order, where only members with a default may be left out at the end.
-/

namespace EntityRelation

/-- Why a JSON value does not decode. -/
inductive DecodeError where
  /-- The value is of another kind. -/
  | wrongKind (found : Json) (expected : String)
  /-- The value is of the right kind and out of range. -/
  | wrongValue (found : Json) (expected : String)
  /-- The name is none of the known ones. -/
  | unknownVariant (name : String) (known : List String)
  /-- A member has to be there. -/
  | missingMember (key : String)
  /-- An array ends too early. -/
  | tooShort (length : Nat) (expected : String)
  /-- An array goes on after the last of `used` items. -/
  | tooLong (length used : Nat)
  /-- An array inside a tagged value goes on after the last of `used` items. -/
  | tooLongInTagged (length used : Nat)
  /-- The text is not written the way its type asks for. -/
  | malformed (reason : String)

namespace DecodeError

/-- A value as a message names it. -/
def describe : Json → String
  | .null => "null"
  | .bool b => "boolean \x60" ++ toString b ++ "\x60"
  | .integer n => "integer \x60" ++ toString n ++ "\x60"
  | .float x => "floating point \x60" ++ FloatText.json x ++ "\x60"
  | .text s => "string " ++ Text.quoted s
  | .array _ => "sequence"
  | .object _ => "map"

/-- A name between accents. -/
def accented (name : String) : String :=
  "\x60" ++ name ++ "\x60"

/-- The known names as a message lists them. -/
def oneOf : List String → String
  | [] => "there are no variants"
  | [a] => "expected " ++ accented a
  | [a, b] => "expected " ++ accented a ++ " or " ++ accented b
  | names => "expected one of " ++ String.intercalate ", " (names.map accented)

/-- A number of elements. -/
def elements (n : Nat) : String :=
  if n = 1 then "1 element" else toString n ++ " elements"

/-- The wording of an error. -/
def message : DecodeError → String
  | wrongKind found expected => "invalid type: " ++ describe found ++ ", expected " ++ expected
  | wrongValue found expected => "invalid value: " ++ describe found ++ ", expected " ++ expected
  | unknownVariant name known => "unknown variant " ++ accented name ++ ", " ++ oneOf known
  | missingMember key => "missing field " ++ accented key
  | tooShort length expected => "invalid length " ++ toString length ++ ", expected " ++ expected
  | tooLong length _ =>
    "invalid length " ++ toString length ++ ", expected fewer elements in array"
  | tooLongInTagged length used =>
    "invalid length " ++ toString length ++ ", expected " ++ elements used ++ " in sequence"
  | malformed reason => reason

/-- The error as it reads when the value stands inside a tagged one. -/
def insideTagged : DecodeError → DecodeError
  | tooLong length used => tooLongInTagged length used
  | e => e

end DecodeError

/-- A way to read a JSON value. -/
abbrev Decoder (α : Type) := Json → Except DecodeError α

namespace Decoder

/-- A text. -/
def text : Decoder String
  | .text s => .ok s
  | j => .error (.wrongKind j "a string")

/-- A truth value. -/
def bool : Decoder Bool
  | .bool b => .ok b
  | j => .error (.wrongKind j "a boolean")

/-- A floating-point number, which may be written as a whole one. -/
def float : Decoder Float
  | .float x => .ok x
  | .integer n => .ok (Float.ofInt n)
  | j => .error (.wrongKind j "f64")

/-- A natural number. -/
def nat : Decoder Nat
  | .integer n => if 0 ≤ n then .ok n.toNat else .error (.wrongValue (.integer n) "usize")
  | j => .error (.wrongKind j "usize")

/-- A value or nothing. -/
def option {α : Type} (decode : Decoder α) : Decoder (Option α)
  | .null => .ok none
  | j => (decode j).map some

/-- The items of an array, in order, up to the first that does not decode. -/
def items {α : Type} (decode : Decoder α) : List Json → Except DecodeError (List α)
  | [] => .ok []
  | j :: rest =>
    match decode j with
    | .error e => .error e
    | .ok a => (items decode rest).map (a :: ·)

/-- A list. -/
def list {α : Type} (decode : Decoder α) : Decoder (List α)
  | .array js => items decode js
  | j => .error (.wrongKind j "a sequence")

/-- The value that stands beside a name. -/
def named {α : Type} (choices : List (String × α)) (name : String) : Except DecodeError α :=
  match choices.lookup name with
  | some a => .ok a
  | none => .error (.unknownVariant name (choices.map Prod.fst))

/-- Whether a value says nothing. -/
def isNull : Json → Bool
  | .null => true
  | _ => false

/-- Whether a value inside a tagged one says nothing: an object without members does so too. -/
def isVoid : Json → Bool
  | .null | .object [] => true
  | _ => false

/-- One of several names. A name may also be the key of an object whose only member says
nothing. -/
def choiceWith {α : Type} (saysNothing : Json → Bool) (choices : List (String × α)) : Decoder α
  | .text name => named choices name
  | .object [(name, value)] =>
    match named choices name with
    | .error e => .error e
    | .ok a => if saysNothing value then .ok a else .error (.wrongKind value "unit")
  | .object members => .error (.wrongValue (.object members) "map with a single key")
  | j => .error (.wrongKind j "string or map")

/-- One of several names, or an object with a name as the key of null. -/
def choice {α : Type} (choices : List (String × α)) : Decoder α :=
  choiceWith isNull choices

/-- One of several names inside a tagged value. -/
def choiceInTagged {α : Type} (choices : List (String × α)) : Decoder α :=
  choiceWith isVoid choices

/-- A pair written as an array of two. -/
def pair {α β : Type} (first : Decoder α) (second : Decoder β) : Decoder (α × β)
  | .array js =>
    match js with
    | [] => .error (.tooShort 0 "a tuple of size 2")
    | [a] => (first a).bind fun _ => .error (.tooShort 1 "a tuple of size 2")
    | a :: b :: rest => do
      let x ← first a
      let y ← second b
      if rest.isEmpty then .ok (x, y) else .error (.tooLong js.length 2)
  | j => .error (.wrongKind j "a tuple of size 2")

/-- Whether a member of a record may be absent. -/
inductive Presence where
  /-- The member has to be there. -/
  | required
  /-- Absence stands for nothing, except in an array. -/
  | optional
  /-- Absence stands for the default, at the end of an array too. -/
  | defaulted
  deriving DecidableEq

/-- One member of a record under construction. -/
structure Slot (σ : Type) where
  key : String
  presence : Presence
  set : Json → σ → Except DecodeError σ

/-- The slot of a member with its own decoder. -/
def slot {σ α : Type} (key : String) (presence : Presence) (decode : Decoder α)
    (put : α → σ → σ) : Slot σ where
  key
  presence
  set j record := (decode j).map (put · record)

/-- Fill in the members of an object, in the given order. -/
def fillMembers {σ : Type} (slots : List (Slot σ)) (record : σ) :
    List (String × Json) → Except DecodeError σ
  | [] => .ok record
  | (key, value) :: rest =>
    match slots.find? (·.key == key) with
    | none => fillMembers slots record rest
    | some slot =>
      match slot.set value record with
      | .error e => .error e
      | .ok record => fillMembers slots record rest

/-- The first required member that is absent. -/
def missing? {σ : Type} (slots : List (Slot σ)) (members : List (String × Json)) :
    Option (Slot σ) :=
  slots.find? fun slot => slot.presence = .required && (members.lookup slot.key).isNone

/-- Fill in the members of an array, in the order of the slots; `used` counts the slots so far. -/
def fillItems {σ : Type} (expected : String) (used : Nat) (record : σ) :
    List (Slot σ) → List Json → Except DecodeError σ
  | [], [] => .ok record
  | [], rest => .error (.tooLong (used + rest.length) used)
  | slot :: slots, [] =>
    if slot.presence = .defaulted then fillItems expected (used + 1) record slots []
    else .error (.tooShort used expected)
  | slot :: slots, j :: rest =>
    match slot.set j record with
    | .error e => .error e
    | .ok record => fillItems expected (used + 1) record slots rest

/-- A record of a type name, starting from a record whose members all have their defaults. -/
def record {σ : Type} (name : String) (blank : σ) (slots : List (Slot σ)) : Decoder σ
  | .object members =>
    let members := Json.sortMembers members
    match fillMembers slots blank members with
    | .error e => .error e
    | .ok filled =>
      match missing? slots members with
      | some slot => .error (.missingMember slot.key)
      | none => .ok filled
  | .array js =>
    fillItems (name ++ " with " ++ DecodeError.elements slots.length) 0 blank slots js
  | j => .error (.wrongKind j name)

/-- A value whose kind is told by a tag: a member of that key, or the first item of an array. The
rest is decoded by the decoder of the kind. -/
def tagged {α : Type} (name tag : String) (kinds : List (String × Decoder α)) : Decoder α
  | .object members =>
    match members.lookup tag with
    | none => .error (.missingMember tag)
    | some (.text kind) => do
      let decode ← named kinds kind
      (decode (.object (members.filter (·.1 != tag)))).mapError DecodeError.insideTagged
    | some j => .error (.wrongKind j "variant identifier")
  | .array [] => .error (.missingMember tag)
  | .array (.text kind :: rest) => do
    let decode ← named kinds kind
    (decode (.array rest)).mapError DecodeError.insideTagged
  | .array (j :: _) => .error (.wrongKind j "variant identifier")
  | j => .error (.wrongKind j ("internally tagged enum " ++ name))

end Decoder

end EntityRelation
