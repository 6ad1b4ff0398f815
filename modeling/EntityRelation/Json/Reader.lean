import EntityRelation.Json.Number

/-!
# Reading JSON

The reader is strict: nothing but blanks may follow the value, a control character in a string has
to be escaped, an escaped surrogate has to have its partner, and arrays and objects nest at most
one hundred and twenty-seven levels deep. Of two members with one key the last is kept, and the
members of an object come out in the order of their keys.
-/

namespace EntityRelation

namespace Json

/-- A blank between the parts of a value. -/
def isSpace (c : Char) : Bool :=
  c = ' ' || c = '\n' || c = '\t' || c = '\r'

/-- The text without the blanks it starts with. -/
def skipSpaces (cs : List Char) : List Char :=
  cs.dropWhile isSpace

/-- The code unit written by four hexadecimal digits. -/
def codeUnit? : List Char → Option Nat
  | a :: b :: c :: d :: _ => Text.hexValue? [a, b, c, d]
  | _ => none

/-- The character written by the code units after a backslash and a `u`, and how many characters
it takes. -/
def unicodeEscape? (cs : List Char) : Option (Char × Nat) := do
  let high ← codeUnit? cs
  if 0xDC00 ≤ high ∧ high < 0xE000 then none
  else if 0xD800 ≤ high ∧ high < 0xDC00 then
    match cs.drop 4 with
    | '\\' :: 'u' :: rest =>
      let low ← codeUnit? rest
      if 0xDC00 ≤ low ∧ low < 0xE000 then
        some (Char.ofNat (0x10000 + (high - 0xD800) * 0x400 + (low - 0xDC00)), 10)
      else none
    | _ => none
  else some (Char.ofNat high, 4)

/-- The character that an escape after a backslash stands for, and how many characters it takes. -/
def escape? : List Char → Option (Char × Nat)
  | '"' :: _ => some ('"', 1)
  | '\\' :: _ => some ('\\', 1)
  | '/' :: _ => some ('/', 1)
  | 'b' :: _ => some ('\x08', 1)
  | 'f' :: _ => some ('\x0c', 1)
  | 'n' :: _ => some ('\n', 1)
  | 'r' :: _ => some ('\r', 1)
  | 't' :: _ => some ('\t', 1)
  | 'u' :: rest => (unicodeEscape? rest).map fun (c, n) => (c, n + 1)
  | _ => none

/-- The rest of a string whose characters so far are `before`, last first. -/
def stringBody? (before : List Char) : List Char → Option (String × List Char)
  | [] => none
  | c :: rest =>
    if c = '"' then some (String.ofList before.reverse, rest)
    else if c = '\\' then
      match escape? rest with
      | some (escaped, width) => stringBody? (escaped :: before) (rest.drop width)
      | none => none
    else if c.toNat < 0x20 then none
    else stringBody? (c :: before) rest
termination_by cs => cs.length
decreasing_by all_goals simp only [List.length_cons, List.length_drop]; omega

/-- How deep arrays and objects may nest. -/
def maxDepth : Nat := 127

mutual

/-- Read a value that does not start with a blank. The first argument bounds the steps, `depth`
the nesting. -/
def value? : Nat → Nat → List Char → Option (Json × List Char)
  | 0, _, _ => none
  | steps + 1, depth, cs =>
    match cs with
    | '"' :: rest => (stringBody? [] rest).map fun (s, rest) => (text s, rest)
    | '[' :: rest =>
      match depth with
      | 0 => none
      | depth + 1 =>
        match skipSpaces rest with
        | ']' :: rest => some (array [], rest)
        | rest => items? steps depth [] rest
    | '\x7b' :: rest =>
      match depth with
      | 0 => none
      | depth + 1 =>
        match skipSpaces rest with
        | '\x7d' :: rest => some (object [], rest)
        | rest => members? steps depth [] rest
    | 't' :: 'r' :: 'u' :: 'e' :: rest => some (bool true, rest)
    | 'f' :: 'a' :: 'l' :: 's' :: 'e' :: rest => some (bool false, rest)
    | 'n' :: 'u' :: 'l' :: 'l' :: rest => some (null, rest)
    | _ => number? cs

/-- Read the items of an array after `before`, the last one first. -/
def items? : Nat → Nat → List Json → List Char → Option (Json × List Char)
  | 0, _, _, _ => none
  | steps + 1, depth, before, cs =>
    match value? steps depth cs with
    | none => none
    | some (item, rest) =>
      match skipSpaces rest with
      | ',' :: rest => items? steps depth (item :: before) (skipSpaces rest)
      | ']' :: rest => some (array (item :: before).reverse, rest)
      | _ => none

/-- Read the members of an object after `before`, the last one first. -/
def members? : Nat → Nat → List (String × Json) → List Char → Option (Json × List Char)
  | 0, _, _, _ => none
  | steps + 1, depth, before, cs =>
    match cs with
    | '"' :: rest =>
      match stringBody? [] rest with
      | none => none
      | some (key, rest) =>
        match skipSpaces rest with
        | ':' :: rest =>
          match value? steps depth (skipSpaces rest) with
          | none => none
          | some (value, rest) =>
            match skipSpaces rest with
            | ',' :: rest => members? steps depth ((key, value) :: before) (skipSpaces rest)
            | '\x7d' :: rest =>
              some (object (sortMembers ((key, value) :: before).reverse), rest)
            | _ => none
        | _ => none
    | _ => none

end

/-- Read a text that holds one value. Every step but the last takes a character, so twice the
length bounds them. -/
def parse? (s : String) : Option Json :=
  let cs := skipSpaces s.toList
  match value? (2 * cs.length + 2) maxDepth cs with
  | some (value, rest) => if (skipSpaces rest).isEmpty then some value else none
  | none => none

end Json

end EntityRelation
