import EntityRelation.Syntax.Token
import EntityRelation.Text.Digit

/-!
# Literals between quotes

What stands between quotes has a value and a width, which counts the characters up to and with the
closing quote. A quote inside is written twice. Backslashes mean nothing, escape one character, or
stand before a code point, as the kind of literal has it.
-/

namespace EntityRelation

namespace Syntax

/-- What a backslash in front of a character stands for. The wildcards of patterns keep it where
patterns need it. -/
def unescaped (keepWildcards : Bool) (c : Char) : List Char :=
  match c with
  | '0' => ['\x00']
  | 'a' => ['\x07']
  | 'b' => ['\x08']
  | 'f' => ['\x0c']
  | 'n' => ['\n']
  | 'r' => ['\r']
  | 't' => ['\t']
  | 'Z' => ['\x1a']
  | '%' | '_' => if keepWildcards then ['\\', c] else [c]
  | c => [c]

/-- The value and the width of a text behind an opening quote. `escape` says what a backslash in
front of a character stands for, where there are escapes. -/
def quotedText? (quote : Char) (escape : Option (Char → List Char)) :
    List Char → Option (List Char × Nat)
  | [] => none
  | c :: rest =>
    if c = quote then
      match rest with
      | [] => some ([], 1)
      | d :: more =>
        if d = quote then
          (quotedText? quote escape more).map fun (value, n) => (quote :: value, n + 2)
        else some ([], 1)
    else if c = '\\' && escape.isSome then
      match rest with
      | [] => none
      | d :: more =>
        (quotedText? quote escape more).map fun (value, n) =>
          ((escape.elim [d] (· d)) ++ value, n + 2)
    else (quotedText? quote escape rest).map fun (value, n) => (c :: value, n + 1)

/-- A character by its code point, if there is one. -/
def charOf? (code : Nat) : Option Char :=
  if code.isValidChar then some (Char.ofNat code) else none

/-- A character by one byte, of which only ASCII is understood. -/
def byteOf? (code : Nat) : Option Char :=
  if code % 256 < 128 then some (Char.ofNat (code % 256)) else none

/-- Whether a character is an octal digit. -/
def isOctalDigit (c : Char) : Bool :=
  '0' ≤ c && c ≤ '7'

/-- The character that an escape stands for, and how many characters follow its first one; `c` is
the first one behind the backslash. -/
def escapeSequence? (c : Char) (rest : List Char) : Option (Char × Nat) :=
  let codePoint (width : Nat) : Option (Char × Nat) :=
    let digits := rest.take width
    if digits.length = width then
      ((Text.hexValue? digits).bind charOf?).map (·, width)
    else none
  match c with
  | 'b' => some ('\x08', 0)
  | 'f' => some ('\x0c', 0)
  | 'n' => some ('\n', 0)
  | 'r' => some ('\r', 0)
  | 't' => some ('\t', 0)
  | 'u' => codePoint 4
  | 'U' => codePoint 8
  | 'x' =>
    let digits := (rest.take 2).takeWhile Text.isHexDigit
    if digits.isEmpty then some ('x', 0)
    else ((Text.hexValue? digits).bind byteOf?).map (·, digits.length)
  | c =>
    if isOctalDigit c then
      let digits := (rest.take 2).takeWhile isOctalDigit
      let code := (c :: digits).foldl (fun n d => 8 * n + Text.digitValue d) 0
      (byteOf? code).map (·, digits.length)
    else some (c, 0)

/-- The value and the width of a text with escapes behind its opening quote. No escape may stand
for the character with the number zero. -/
def escapedText? (cs : List Char) : Option (List Char × Nat) :=
  match cs with
  | [] => none
  | '\x27' :: rest =>
    match rest with
    | '\x27' :: more => (escapedText? more).map fun (value, n) => ('\x27' :: value, n + 2)
    | _ => some ([], 1)
  | '\\' :: rest =>
    match rest with
    | [] => none
    | c :: more =>
      match escapeSequence? c more with
      | none => none
      | some (d, width) =>
        if d = '\x00' then none
        else
          (escapedText? (more.drop width)).map fun (value, n) => (d :: value, n + width + 2)
  | c :: rest => (escapedText? rest).map fun (value, n) => (c :: value, n + 1)
termination_by cs.length
decreasing_by all_goals simp only [List.length_cons, List.length_drop]; omega

/-- The number of so many hexadecimal digits behind the first `offset` characters of a literal, or
the fault and where it is noticed. -/
def hexNumber (code offset : Nat) : Nat → List Char → Except (LexicalFault × Nat) Nat
  | 0, _ => .ok code
  | _ + 1, [] => .error (.missingHexDigit, offset)
  | n + 1, c :: rest =>
    match Text.hexDigitValue? c with
    | none => .error (.badHexDigit c, offset + 1)
    | some digit => hexNumber (16 * code + digit) (offset + 1) n rest

/-- The character of a code point that is written with so many digits. -/
def codePoint (width offset : Nat) (cs : List Char) : Except (LexicalFault × Nat) Char := do
  let code ← hexNumber 0 offset width cs
  match charOf? code with
  | some c => return c
  | none => throw (.badCodePoint code, offset + width)

/-- The value of a text with code points behind the first `offset` characters of a literal, and
the number of characters of the literal up to the closing quote. -/
def unicodeText (offset : Nat) (cs : List Char) :
    Except (LexicalFault × Nat) (List Char × Nat) :=
  match cs with
  | [] => .error (.unterminatedUnicode, offset)
  | '\x27' :: rest =>
    match rest with
    | '\x27' :: more => (unicodeText (offset + 2) more).map fun (value, n) => ('\x27' :: value, n)
    | _ => .ok ([], offset + 1)
  | '\\' :: rest =>
    match rest with
    | '\\' :: more => (unicodeText (offset + 2) more).map fun (value, n) => ('\\' :: value, n)
    | '+' :: more =>
      match codePoint 6 (offset + 2) more with
      | .error e => .error e
      | .ok c => (unicodeText (offset + 8) (more.drop 6)).map fun (value, n) => (c :: value, n)
    | more =>
      match codePoint 4 (offset + 1) more with
      | .error e => .error e
      | .ok c => (unicodeText (offset + 5) (more.drop 4)).map fun (value, n) => (c :: value, n)
  | c :: rest => (unicodeText (offset + 1) rest).map fun (value, n) => (c :: value, n)
termination_by cs.length
decreasing_by all_goals simp only [List.length_cons, List.length_drop]; omega

end Syntax

end EntityRelation
