import EntityRelation.Source.Place
import EntityRelation.Text.Case

/-!
# Tokens of the check

The check reads a script as one dialect does, so its tokens keep more than those of the import:
which delimiters a word has, what kind a literal is of, and the text of an operator. `Token.shown`
is a token as messages show it, with escapes and doubled delimiters resolved.
-/

namespace EntityRelation

namespace Syntax

/-- The kinds of literals besides numbers. -/
inductive LiteralKind where
  | single
  | double
  | national
  /-- With escapes, as in `E'a\nb'`. -/
  | escaped
  /-- With code points, as in `U&'\0041'`. -/
  | unicode
  | hex
  | bits
  | doubleBits
  | dollar (tag : String)
  deriving DecidableEq, Repr

/-- A token. -/
inductive Token where
  | word (value : String) (delimiter : Option Char)
  | number (digits : String) (long : Bool)
  | literal (kind : LiteralKind) (value : String)
  | placeholder (text : String)
  /-- An operator, a punctuation mark, or a character that means nothing. -/
  | symbol (text : String)
  deriving DecidableEq, Repr

/-- The delimiter that closes a word. -/
def closing : Char → Char
  | '[' => ']'
  | c => c

/-- What stands around the value of a literal. -/
def LiteralKind.delimiters : LiteralKind → String × String
  | single => ("'", "'")
  | double => ("\"", "\"")
  | national => ("N'", "'")
  | escaped => ("E'", "'")
  | unicode => ("U&'", "'")
  | hex => ("X'", "'")
  | bits => ("B'", "'")
  | doubleBits => ("B\"", "\"")
  | dollar tag => ("$" ++ tag ++ "$", "$" ++ tag ++ "$")

namespace Token

/-- A token as messages show it. -/
def shown : Token → String
  | word value none => value
  | word value (some c) => String.ofList (c :: value.toList ++ [closing c])
  | number digits long => if long then digits ++ "L" else digits
  | literal kind value => kind.delimiters.1 ++ value ++ kind.delimiters.2
  | placeholder text | symbol text => text

/-- Whether a token is a word. -/
def isWord : Token → Bool
  | word .. => true
  | _ => false

/-- Whether a token can be a name: a word, or a plain string. -/
def isName : Token → Bool
  | word .. | literal .single _ | literal .double _ => true
  | _ => false

/-- The upper case of a word without delimiters, by which keywords are told. -/
def keyword? : Token → Option String
  | word value none => some (String.ofList (Text.toUpper value.toList))
  | _ => none

end Token

/-- A token and where it starts. -/
structure Lexeme where
  token : Token
  place : Source.Place
  deriving DecidableEq, Repr

/-- Why a script cannot be cut into tokens. -/
inductive LexicalFault where
  | unterminatedString
  | unclosedName (delimiter : Char)
  | strayUnderscore
  | unclosedComment
  | unclosedDollarText
  | unclosedTaggedText
  | unterminatedEscaped
  | unterminatedUnicode
  | missingHexDigit
  | badHexDigit (c : Char)
  | badCodePoint (code : Nat)
  | unfinishedOperator (spelling : String)
  deriving DecidableEq, Repr

namespace LexicalFault

/-- The wording of a fault. -/
def message : LexicalFault → String
  | unterminatedString => "Unterminated string literal"
  | unclosedName delimiter =>
    "Expected close delimiter '" ++ String.ofList [delimiter] ++ "' before EOF."
  | strayUnderscore => "Unexpected character '_'"
  | unclosedComment => "Unexpected EOF while in a multi-line comment"
  | unclosedDollarText => "Unterminated dollar-quoted string"
  | unclosedTaggedText => "Unterminated dollar-quoted, expected $"
  | unterminatedEscaped => "Unterminated encoded string literal"
  | unterminatedUnicode => "Unterminated unicode encoded string literal"
  | missingHexDigit => "Unexpected EOF while parsing hex digit in escaped unicode string."
  | badHexDigit c => "Invalid hex digit in escaped unicode string: " ++ String.ofList [c]
  | badCodePoint code =>
    "Invalid unicode character: " ++ String.ofList (Nat.toDigits 16 code)
  | unfinishedOperator spelling => "Expected a valid binary operator after '" ++ spelling ++ "'"

end LexicalFault

/-- A fault and where it is. -/
structure LexicalError where
  fault : LexicalFault
  place : Source.Place
  deriving DecidableEq, Repr

end Syntax

end EntityRelation
