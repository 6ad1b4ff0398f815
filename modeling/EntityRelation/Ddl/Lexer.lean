import EntityRelation.Ddl.Token
import EntityRelation.Text.Blank
import EntityRelation.Text.Digit
import EntityRelation.Text.Letter

/-!
# Cutting a script into lexemes

`scan` looks at the first character of what is left and says which token starts there and how many
further characters belong to it. `lexemes` repeats that, so it ends because every token takes at
least the one character. Names may stand between double quotes, accents or square brackets, and a
closing delimiter inside such a name is written twice. Comments become lexemes, since a comment in
front of a table may hold its position.
-/

namespace EntityRelation

namespace Ddl

/-- Why a script cannot be cut into tokens. -/
inductive LexicalFault where
  | unterminatedString
  | unclosedName (delimiter : Char)
  | strayUnderscore
  | unclosedComment
  | unclosedDollarText
  | unclosedTaggedText
  deriving DecidableEq, Repr

namespace LexicalFault

/-- The wording of a fault. -/
def message : LexicalFault → String
  | unterminatedString => "Unterminated string literal"
  | unclosedName delimiter =>
    "Expected close delimiter '" ++ String.ofList [delimiter] ++ "' before EOF."
  | strayUnderscore => "Unexpected character '_'"
  | unclosedComment => "Unexpected EOF while in a multi-line comment"
  | unclosedDollarText => "Unterminated dollar-quoted string"
  | unclosedTaggedText => "Unterminated dollar-quoted, expected $"

/-- Whether the fault is noticed at the end of the text only. -/
def isAtEnd : LexicalFault → Bool
  | unclosedComment | unclosedDollarText | unclosedTaggedText => true
  | _ => false

end LexicalFault

/-- A fault and where it is. -/
structure LexicalError where
  fault : LexicalFault
  place : Source.Place
  deriving DecidableEq, Repr

namespace Lexer

/-- What starts at a character: a token, or none for blanks, and how many further characters
belong to it. `offset` is where a fault is noticed, in characters from the first. -/
abbrev Scan := Except (LexicalFault × Nat) (Option Token × Nat)

/-- A token with the number of its further characters. -/
def found (token : Token) (width : Nat) : Scan :=
  .ok (some token, width)

/-- A fault noticed at the first character. -/
def fault (f : LexicalFault) : Scan :=
  .error (f, 0)

/-- Whether a word may start with the character. -/
def isWordStart (c : Char) : Bool :=
  Text.isLetter c || c = '_'

/-- Whether a word may go on with the character. -/
def isWordPart (c : Char) : Bool :=
  Text.isLetterOrNumeric c || c = '_' || c = '$' || c = '@' || c = '#'

/-- The delimiter that closes a name. -/
def closing? : Char → Option Char
  | '"' => some '"'
  | '\x60' => some '\x60'
  | '[' => some ']'
  | _ => none

/-- What stands before the closing delimiter, which counts as itself where it is doubled, and the
number of characters up to and with the closing one. -/
def enclosed? (close : Char) : List Char → Option (List Char × Nat)
  | [] => none
  | c :: rest =>
    if c = close then
      match rest with
      | [] => some ([], 1)
      | d :: more =>
        if d = close then (enclosed? close more).map fun (value, n) => (close :: value, n + 2)
        else some ([], 1)
    else
      (enclosed? close rest).map fun (value, n) => (c :: value, n + 1)

/-- The number of characters up to and with the closing single quote of a text in which a
backslash takes the meaning from the next character. -/
def escapedWidth? : List Char → Option Nat
  | [] => none
  | '\\' :: rest =>
    match rest with
    | [] => none
    | _ :: more => (escapedWidth? more).map (· + 2)
  | '\x27' :: rest =>
    match rest with
    | '\x27' :: more => (escapedWidth? more).map (· + 2)
    | _ => some 1
  | _ :: rest => (escapedWidth? rest).map (· + 1)

/-- The number of characters up to and with the first `*/`. -/
def commentWidth? : List Char → Option Nat
  | '*' :: '/' :: _ => some 2
  | _ :: rest => (commentWidth? rest).map (· + 1)
  | [] => none

/-- The number of characters up to and with the first place where `mark` stands. -/
def widthThrough? (mark : List Char) : List Char → Option Nat
  | [] => none
  | c :: rest =>
    if mark.isPrefixOf (c :: rest) then some mark.length
    else (widthThrough? mark rest).map (· + 1)

/-- The number of characters to the end of the line, its line feed included. -/
def lineWidth : List Char → Nat
  | [] => 0
  | c :: rest => if c = '\n' then 1 else lineWidth rest + 1

/-- The operators of more than one character, longer ones before those they start with. -/
def operators : List (List Char) :=
  ["!~~*", "->>", "||/", "!~*", "!~~", "<=>", "~~*", "#>>", "->", "||", "|/", "=>", "==", "!=",
    "!!", "!~", "<=", "<>", "<<", "<@", ">=", ">>", "::", ":=", "&&", "^@", "~*", "~~", "#-",
    "#>", "@>", "@?", "@@"].map String.toList

/-- The number of further characters of an operator. -/
def operatorWidth (cs : List Char) : Nat :=
  match operators.find? (·.isPrefixOf cs) with
  | some operator => operator.length - 1
  | none => 0

/-- The number of characters of an exponent, none when no digit follows its sign. -/
def exponentWidth (cs : List Char) : Nat :=
  match cs with
  | c :: rest =>
    if c = 'e' || c = 'E' then
      let sign :=
        match rest with
        | '+' :: _ | '-' :: _ => 1
        | _ => 0
      let digits := ((rest.drop sign).takeWhile Char.isDigit).length
      if digits = 0 then 0 else 1 + sign + digits
    else 0
  | [] => 0

/-- The number of digits a text starts with. -/
def digitsWidth (cs : List Char) : Nat :=
  (cs.takeWhile Char.isDigit).length

/-- A number that starts with a digit or a point, or the point alone. `cs` starts with it. -/
def scanNumber (cs : List Char) : Scan :=
  let whole := digitsWidth cs
  let rest := cs.drop whole
  if whole = 1 ∧ cs.head? = some '0' ∧ rest.head? = some 'x' then
    found .otherString (((rest.drop 1).takeWhile Text.isHexDigit).length + 1)
  else
    let point := if rest.head? = some '.' then 1 else 0
    let fraction := digitsWidth (rest.drop point)
    if whole = 0 ∧ fraction = 0 then found .period 0
    else
      let mantissa := whole + point + fraction
      let exponent := exponentWidth (cs.drop mantissa)
      let long := if (cs.drop (mantissa + exponent)).head? = some 'L' then 1 else 0
      found .number (mantissa + exponent + long - 1)

/-- What starts with a dollar sign; `rest` follows the sign. -/
def scanDollar (rest : List Char) : Scan :=
  let tag := rest.takeWhile fun c => Text.isLetterOrNumeric c || c = '_'
  match rest.drop tag.length with
  | '$' :: body =>
    match widthThrough? ('$' :: tag ++ ['$']) body with
    | some width => found .otherString (tag.length + 1 + width)
    | none =>
      .error (if tag.isEmpty then .unclosedDollarText else .unclosedTaggedText, 0)
  | _ => found .symbol tag.length

/-- A word that starts with `c`. -/
def scanWord (c : Char) (rest : List Char) : Scan :=
  let more := rest.takeWhile isWordPart
  found (.word (String.ofList (c :: more))) more.length

/-- What starts at the character `c`; `rest` follows it, and `afterWord` says whether it follows
a word without a gap. -/
def scan (afterWord : Bool) (c : Char) (rest : List Char) : Scan :=
  if c = ' ' || c = '\t' || c = '\n' || c = '\r' then
    .ok (none, 0)
  else if (c = 'n' || c = 'N') && rest.head? == some '\x27' then
    match enclosed? '\x27' rest.tail with
    | some (_, width) => found .otherString (width + 1)
    | none => .error (.unterminatedString, 1)
  else if (c = 'x' || c = 'X') && rest.head? == some '\x27' then
    match escapedWidth? rest.tail with
    | some width => found .otherString (width + 1)
    | none => .error (.unterminatedString, 1)
  else if c = '\x27' then
    match enclosed? '\x27' rest with
    | some (value, width) => found (.string (String.ofList value)) width
    | none => fault .unterminatedString
  else if let some close := closing? c then
    match enclosed? close rest with
    | some (value, width) => found (.quotedWord (String.ofList value)) width
    | none => fault (.unclosedName close)
  else if c = '.' && rest.head? == some '_' then
    if afterWord then found .period 0 else fault .strayUnderscore
  else if c.isDigit || c = '.' then
    scanNumber (c :: rest)
  else if c = '-' && rest.head? == some '-' then
    found .comment (lineWidth rest)
  else if c = '/' && rest.head? == some '*' then
    match commentWidth? rest.tail with
    | some width => found .comment (width + 1)
    | none => fault .unclosedComment
  else if c = '$' then
    scanDollar rest
  else if c = '?' then
    found .symbol (rest.takeWhile Text.isNumeric).length
  else if isWordStart c then
    scanWord c rest
  else if Text.isBlank c then
    .ok (none, 0)
  else
    match c with
    | '(' => found .leftParen 0
    | ')' => found .rightParen 0
    | ',' => found .comma 0
    | ';' => found .semicolon 0
    | _ => found .symbol (operatorWidth (c :: rest))

/-- Where a fault is, for a token that starts at `place` with the characters `cs`. -/
def locate (place : Source.Place) (cs : List Char) (f : LexicalFault × Nat) : LexicalError :=
  ⟨f.1, if f.1.isAtEnd then place.advance cs else place.advance (cs.take f.2)⟩

/-- The lexemes of a text that starts at `place`, follows a word or not, and follows a gap or
not. -/
def lexemesFrom (place : Source.Place) (afterWord spaced : Bool) :
    List Char → Except LexicalError (List Lexeme)
  | [] => .ok []
  | c :: rest =>
    match scan afterWord c rest with
    | .error f => .error (locate place (c :: rest) f)
    | .ok (token?, width) =>
      let text := c :: rest.take width
      let next := place.advance text
      match token? with
      | none => lexemesFrom next false true (rest.drop width)
      | some token =>
        match lexemesFrom next token.isWord (token == .comment) (rest.drop width) with
        | .error e => .error e
        | .ok more => .ok (⟨token, String.ofList text, place, spaced⟩ :: more)
termination_by cs => cs.length
decreasing_by all_goals simp only [List.length_cons, List.length_drop]; omega

/-- The lexemes of a script. -/
def lexemes (sql : String) : Except LexicalError (List Lexeme) :=
  lexemesFrom .start false false sql.toList

end Lexer

end Ddl

end EntityRelation
