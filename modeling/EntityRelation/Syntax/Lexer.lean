import EntityRelation.Ddl.Lexer
import EntityRelation.Syntax.Lexicon
import EntityRelation.Syntax.Literal

/-!
# The lexer of the check

A script is cut into tokens by the lexical rules of a dialect. Every step looks at the next
character and at what follows it, and takes at least the one character. Blanks and comments are
gaps, which matter only in that a word in front of one is not in front of what comes after.
-/

namespace EntityRelation

namespace Syntax

namespace Lexer

/-- What a step finds. -/
inductive Piece where
  | token (t : Token)
  | gap
  deriving DecidableEq, Repr

/-- The piece that starts at a character, and how many further characters belong to it; or a fault
and how many characters stand before the place where it is noticed. -/
abbrev Scan := Except (LexicalFault × Nat) (Piece × Nat)

/-- A token with the number of its further characters. -/
def found (t : Token) (width : Nat) : Scan :=
  .ok (.token t, width)

/-- A word without delimiters. -/
def wordOf (cs : List Char) : Token :=
  .word (String.ofList cs) none

/-- A symbol. -/
def symbolOf (cs : List Char) : Token :=
  .symbol (String.ofList cs)

/-! ## Words and names -/

/-- A word that starts with some characters, the first of which starts the piece; `rest` follows
them. -/
def scanWord (x : Lexicon) (start rest : List Char) : Scan :=
  let more := rest.takeWhile x.isWordPart
  found (wordOf (start ++ more)) (start.length - 1 + more.length)

/-- A name behind the delimiter `c`. -/
def scanName (c : Char) (rest : List Char) : Scan :=
  match quotedText? (closing c) none rest with
  | some (value, width) => found (.word (String.ofList value) (some c)) width
  | none => .error (.unclosedName (closing c), 0)

/-! ## Literals -/

/-- What a backslash stands for in a string, where it means something. -/
def escape? (x : Lexicon) (inString : Bool) : Option (Char → List Char) :=
  if inString then some (unescaped x.backslashEscapes) else none

/-- A literal whose opening quote follows `before` characters of the piece. -/
def scanQuoted (kind : LiteralKind) (quote : Char) (escape : Option (Char → List Char))
    (before : Nat) (rest : List Char) : Scan :=
  match quotedText? quote escape rest with
  | some (value, width) => found (.literal kind (String.ofList value)) (before + width)
  | none => .error (.unterminatedString, before)

/-- A literal with escapes; `rest` follows its opening quote. -/
def scanEscaped (rest : List Char) : Scan :=
  match escapedText? rest with
  | some (value, width) => found (.literal .escaped (String.ofList value)) (width + 1)
  | none => .error (.unterminatedEscaped, 0)

/-- A literal with code points; `rest` follows its opening quote. -/
def scanUnicode (rest : List Char) : Scan :=
  match unicodeText 3 rest with
  | .ok (value, length) => found (.literal .unicode (String.ofList value)) (length - 1)
  | .error fault => .error fault

/-- A literal that starts with a letter, if there is one; `rest` follows the letter. -/
def scanLettered? (x : Lexicon) (c : Char) (rest : List Char) : Option Scan :=
  match c.toLower, rest with
  | 'b', '\x27' :: more =>
    if x.bitStrings then some (scanQuoted .bits '\x27' none 1 more) else none
  | 'b', '"' :: more =>
    if x.bitStrings then some (scanQuoted .doubleBits '"' none 1 more) else none
  | 'n', '\x27' :: more =>
    some (scanQuoted .national '\x27' (escape? x x.backslashEscapes) 1 more)
  | 'e', '\x27' :: more => if x.escapedStrings then some (scanEscaped more) else none
  | 'u', '&' :: '\x27' :: more => if x.unicodeStrings then some (scanUnicode more) else none
  | 'x', '\x27' :: more => some (scanQuoted .hex '\x27' (escape? x true) 1 more)
  | _, _ => none

/-- What starts with a dollar sign; `rest` follows the sign. -/
def scanDollar (x : Lexicon) (rest : List Char) : Scan :=
  let isTagPart (c : Char) : Bool :=
    Text.isLetterOrNumeric c || c = '_' || (c = '$' && !x.dollarStrings)
  let tag := rest.takeWhile isTagPart
  match rest.drop tag.length with
  | '$' :: body =>
    let mark := '$' :: tag ++ ['$']
    match Ddl.Lexer.widthThrough? mark body with
    | some width =>
      let text := String.ofList (body.take (width - mark.length))
      found (.literal (.dollar (String.ofList tag)) text) (tag.length + 1 + width)
    | none =>
      .error (if tag.isEmpty then .unclosedDollarText else .unclosedTaggedText, rest.length + 1)
  | _ => found (.placeholder (String.ofList ('$' :: tag))) tag.length

/-! ## Numbers -/

/-- The digits that a text starts with, and the underscores between them. -/
def digitRun (x : Lexicon) (isDigit : Char → Bool) : List Char → List Char
  | [] => []
  | c :: rest =>
    if isDigit c || (x.digitSeparators && c = '_' && rest.head?.any Text.isHexDigit) then
      c :: digitRun x isDigit rest
    else []

/-- A number, a point, or a word that starts with digits. `cs` starts with it. -/
def scanNumber (x : Lexicon) (previous : Option Token) (cs : List Char) : Scan :=
  let whole := digitRun x Char.isDigit cs
  let rest := cs.drop whole.length
  if whole = ['0'] ∧ rest.head? = some 'x' then
    let digits := digitRun x Text.isHexDigit (rest.drop 1)
    found (.literal .hex (String.ofList digits)) (digits.length + 1)
  else
    let point := rest.take (if rest.head? = some '.' then 1 else 0)
    let fraction :=
      if whole.isEmpty && x.digitWords && previous.any Token.isWord then []
      else digitRun x Char.isDigit (rest.drop point.length)
    let mantissa := whole ++ point ++ fraction
    if whole.isEmpty ∧ fraction.isEmpty then found (.symbol ".") 0
    else
      let rest := cs.drop mantissa.length
      let exponent := rest.take (Ddl.Lexer.exponentWidth rest)
      let text := mantissa ++ exponent
      let rest := cs.drop text.length
      let more := if exponent.isEmpty then rest.takeWhile x.isWordPart else []
      let isMember := !exponent.isEmpty && previous == some (.symbol ".")
      if x.digitWords && (!more.isEmpty || isMember) then
        found (wordOf (text ++ more)) (text.length + more.length - 1)
      else
        let long := rest.head? = some 'L'
        found (.number (String.ofList text) long) (text.length - if long then 0 else 1)

/-! ## Operators -/

/-- A word that starts with one of the signs `@` and `#`, where words may. The character behind the
sign belongs to it, whatever it is, unless it makes an operator with the sign. `rest` follows the
sign. -/
def scanSigned? (x : Lexicon) (sign : Char) (rest : List Char) : Option Scan :=
  if x.isWordStart sign then
    match sign, rest with
    | '@', '@' :: c :: more => if c = ' ' then none else some (scanWord x ['@', '@', c] more)
    | '@', c :: more =>
      if [' ', '>', '?', '@', '\x27', '"', '\x60'].contains c then none
      else some (scanWord x ['@', c] more)
    | '#', c :: more =>
      if [' ', '-', '>'].contains c then none else some (scanWord x ['#', c] more)
    | _, _ => none
  else none

/-- An operator or a single character. `cs` starts with it. -/
def scanOperator (x : Lexicon) (cs : List Char) : Scan :=
  match x.operators.find? fun o => o.spelling.toList.isPrefixOf cs with
  | none => found (symbolOf (cs.take 1)) 0
  | some o =>
    let width := o.spelling.length
    let more :=
      if o.ending = .closed then [] else (cs.drop width).takeWhile x.isOperatorPart
    if o.ending = .unfinished ∧ more.isEmpty then
      .error (.unfinishedOperator o.spelling, width)
    else found (symbolOf (o.shown.toList ++ more)) (width + more.length - 1)

/-! ## Comments -/

/-- The number of characters to the end of a comment of one line, with the character that ends the
line. -/
def lineWidth (x : Lexicon) : List Char → Nat
  | [] => 0
  | c :: rest =>
    if c = '\n' || (c = '\r' && x.returnEndsComment) then 1 else lineWidth x rest + 1

/-- The number of characters to the end of a comment, where `depth` comments in it are open. -/
def commentWidth? (nested : Bool) (depth : Nat) : List Char → Option Nat
  | '/' :: '*' :: rest =>
    if nested then (commentWidth? nested (depth + 1) rest).map (· + 2)
    else (commentWidth? nested depth ('*' :: rest)).map (· + 1)
  | '*' :: '/' :: rest =>
    match depth with
    | 0 => some 2
    | depth + 1 => (commentWidth? nested depth rest).map (· + 2)
  | _ :: rest => (commentWidth? nested depth rest).map (· + 1)
  | [] => none

/-- A comment; `rest` follows its opening. -/
def scanComment (x : Lexicon) (rest : List Char) : Scan :=
  match commentWidth? x.nestedComments 0 rest with
  | none => .error (.unclosedComment, rest.length + 2)
  | some width => .ok (.gap, width + 1)

/-- Whether a comment starts with the two hyphens behind which `rest` stands. -/
def startsComment (x : Lexicon) (rest : List Char) : Bool :=
  !x.spacedComments || rest.head? == some ' '

/-! ## All pieces -/

/-- What starts at the character `c`; `rest` follows it, and `previous` stands right before it if
that is a token. -/
def scan (x : Lexicon) (previous : Option Token) (c : Char) (rest : List Char) : Scan :=
  if c = ' ' || c = '\t' || c = '\n' || c = '\r' then .ok (.gap, 0)
  else if let some literal := scanLettered? x c rest then literal
  else if c.isAlpha then scanWord x [c] rest
  else if c = '\x27' then
    scanQuoted .single c (escape? x x.backslashEscapes) 0 rest
  else if x.nameDelimiters.contains c then scanName c rest
  else if c = '"' then scanQuoted .double c (escape? x x.backslashEscapes) 0 rest
  else if c = '.' && rest.head? == some '_' then
    if previous.any Token.isWord then found (.symbol ".") 0 else .error (.strayUnderscore, 0)
  else if c.isDigit || c = '.' then scanNumber x previous (c :: rest)
  else if c = '-' && rest.head? == some '-' && startsComment x (rest.drop 1) then
    .ok (.gap, lineWidth x rest)
  else if c = '/' && rest.head? == some '*' then scanComment x (rest.drop 1)
  else if c = '#' && x.hashComments then .ok (.gap, lineWidth x rest)
  else if let some word := scanSigned? x c rest then word
  else if c = '?' && x.questionPlaceholders then
    let digits := rest.takeWhile Text.isNumeric
    found (.placeholder (String.ofList (c :: digits))) digits.length
  else if x.isWordStart c && c != '@' && c != '#' then scanWord x [c] rest
  else if c = '$' then scanDollar x rest
  else if Text.isBlank c then .ok (.gap, 0)
  else scanOperator x (c :: rest)

/-- The lexemes of a text that starts at `place` and stands behind the token `previous`, unless
there is a gap; or the fault that ends the reading. -/
def lexemesFrom (x : Lexicon) (place : Source.Place) (previous : Option Token) (cs : List Char) :
    Except LexicalError (List Lexeme) :=
  match cs with
  | [] => .ok []
  | c :: rest =>
    match scan x previous c rest with
    | .error (fault, offset) => .error ⟨fault, place.advance ((c :: rest).take offset)⟩
    | .ok (piece, width) =>
      let next := place.advance (c :: rest.take width)
      match piece with
      | .token t => (lexemesFrom x next (some t) (rest.drop width)).map (⟨t, place⟩ :: ·)
      | .gap => lexemesFrom x next none (rest.drop width)
termination_by cs.length
decreasing_by all_goals simp only [List.length_cons, List.length_drop]; omega

/-- The lexemes of a script. -/
def lexemes (d : Dialect) (sql : String) : Except LexicalError (List Lexeme) :=
  lexemesFrom (.of d) .start none sql.toList

end Lexer

end Syntax

end EntityRelation
