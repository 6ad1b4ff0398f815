import EntityRelation.Json.Basic
import EntityRelation.Decimal.FloatText

/-!
# Writing JSON

`Json.compact` writes a value without any blanks and `Json.pretty` with one member or item a line,
indented by two blanks a level. Members keep the order they have in the value. Text is written as
it is, apart from quotes, backslashes and control characters.
-/

namespace EntityRelation

namespace Json

/-- A hexadecimal digit. -/
def hexDigit (n : Nat) : Char :=
  (Nat.toDigits 16 (n % 16)).headD '0'

/-- A character as it stands inside a JSON string. -/
def escapeChar (c : Char) : List Char :=
  match c with
  | '"' => ['\\', '"']
  | '\\' => ['\\', '\\']
  | '\x08' => ['\\', 'b']
  | '\x0c' => ['\\', 'f']
  | '\n' => ['\\', 'n']
  | '\r' => ['\\', 'r']
  | '\t' => ['\\', 't']
  | c =>
    if c.toNat < 0x20 then ['\\', 'u', '0', '0', hexDigit (c.toNat / 16), hexDigit c.toNat]
    else [c]

/-- A JSON string. -/
def quote (s : String) : String :=
  String.ofList ('"' :: s.toList.flatMap escapeChar ++ ['"'])

/-- The text of a value that holds no other values. -/
def scalar : Json → String
  | null => "null"
  | bool b => if b then "true" else "false"
  | integer n => toString n
  | float x => FloatText.json x
  | text s => quote s
  | array _ => "[]"
  | object _ => "\x7b\x7d"

mutual

/-- A value without blanks. -/
def compact : Json → String
  | array items => "[" ++ String.intercalate "," (compactItems items) ++ "]"
  | object members => "\x7b" ++ String.intercalate "," (compactMembers members) ++ "\x7d"
  | null => scalar null
  | bool b => scalar (bool b)
  | integer n => scalar (integer n)
  | float x => scalar (float x)
  | text s => scalar (text s)

/-- The items of an array, each without blanks. -/
def compactItems : List Json → List String
  | [] => []
  | item :: rest => compact item :: compactItems rest

/-- The members of an object, each without blanks. -/
def compactMembers : List (String × Json) → List String
  | [] => []
  | (key, value) :: rest => (quote key ++ ":" ++ compact value) :: compactMembers rest

end

/-- A line break and the indentation of a level. -/
def newline (level : Nat) : String :=
  String.ofList ('\n' :: List.replicate (2 * level) ' ')

/-- Parts between two brackets, each on a line of its own one level below the brackets. -/
def block (opening closing : String) (level : Nat) (parts : List String) : String :=
  if parts.isEmpty then opening ++ closing
  else
    opening ++ newline (level + 1) ++ String.intercalate ("," ++ newline (level + 1)) parts ++
      newline level ++ closing

mutual

/-- A value over several lines, starting at an indentation level. -/
def prettyAt (level : Nat) : Json → String
  | array items => block "[" "]" level (prettyItems (level + 1) items)
  | object members => block "\x7b" "\x7d" level (prettyMembers (level + 1) members)
  | null => scalar null
  | bool b => scalar (bool b)
  | integer n => scalar (integer n)
  | float x => scalar (float x)
  | text s => scalar (text s)

/-- The items of an array at an indentation level. -/
def prettyItems (level : Nat) : List Json → List String
  | [] => []
  | item :: rest => prettyAt level item :: prettyItems level rest

/-- The members of an object at an indentation level. -/
def prettyMembers (level : Nat) : List (String × Json) → List String
  | [] => []
  | (key, value) :: rest =>
    (quote key ++ ": " ++ prettyAt level value) :: prettyMembers level rest

end

/-- A value over several lines. -/
def pretty (j : Json) : String :=
  prettyAt 0 j

end Json

end EntityRelation
