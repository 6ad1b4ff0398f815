/-!
# JSON values

A JSON value keeps whole numbers apart from floating-point ones, because a message about a value
of the wrong kind names them differently. An object is a list of members in which no key is
repeated; `Json.sortMembers` puts them into the order of their keys.
-/

namespace EntityRelation

/-- A JSON value. -/
inductive Json where
  | null
  | bool (value : Bool)
  | integer (value : Int)
  | float (value : Float)
  | text (value : String)
  | array (items : List Json)
  | object (members : List (String × Json))
  deriving Inhabited

namespace Json

/-- A member put into its place in the order of keys; it replaces one of the same key. -/
def insertMember {α : Type} (key : String) (value : α) : List (String × α) → List (String × α)
  | [] => [(key, value)]
  | (k, v) :: rest =>
    if key = k then (key, value) :: rest
    else if key < k then (key, value) :: (k, v) :: rest
    else (k, v) :: insertMember key value rest

/-- The members in the order of their keys, the last of each key. -/
def sortMembers {α : Type} (members : List (String × α)) : List (String × α) :=
  members.foldl (fun sorted member => insertMember member.1 member.2 sorted) []

/-- The value of a member. -/
def member? (key : String) : Json → Option Json
  | object members => members.lookup key
  | _ => none

/-- A floating-point number, with nothing in place of one that JSON cannot write. -/
def ofFloat (x : Float) : Json :=
  if x.isFinite then float x else null

/-- A natural number. -/
def ofNat (n : Nat) : Json :=
  integer n

/-- A value that may be absent. -/
def ofOption {α : Type} (encode : α → Json) : Option α → Json
  | some a => encode a
  | none => null

/-- A list of values. -/
def ofList {α : Type} (encode : α → Json) (items : List α) : Json :=
  array (items.map encode)

end Json

end EntityRelation
