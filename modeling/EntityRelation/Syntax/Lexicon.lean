import EntityRelation.Dialect.Basic
import EntityRelation.Text.Letter

/-!
# Lexical rules of the dialects

What a word may consist of, what delimits names, which comments and literals there are, and how
operators are spelled: `Lexicon.of` says it for every dialect.
-/

namespace EntityRelation

namespace Syntax

/-- How an operator ends. -/
inductive OperatorEnd where
  /-- With its spelling. -/
  | closed
  /-- With all further characters that operators may consist of. -/
  | extensible
  /-- With at least one further character. -/
  | unfinished
  deriving DecidableEq, Repr

/-- An operator of more than one character or with an end of its own. -/
structure Operator where
  spelling : String
  /-- How messages write it. -/
  shown : String := spelling
  ending : OperatorEnd := .extensible
  deriving DecidableEq, Repr

/-- The lexical rules of a dialect. -/
structure Lexicon where
  isWordStart : Char → Bool
  isWordPart : Char → Bool
  /-- The characters that open a delimited name. -/
  nameDelimiters : List Char
  /-- Whether comments may stand in comments. -/
  nestedComments : Bool := false
  /-- Whether a number sign starts a comment. -/
  hashComments : Bool := false
  /-- Whether two hyphens start a comment only in front of a blank. -/
  spacedComments : Bool := false
  /-- Whether a carriage return ends a comment too. -/
  returnEndsComment : Bool := false
  /-- Whether a backslash in a string escapes the next character. -/
  backslashEscapes : Bool := false
  bitStrings : Bool := false
  escapedStrings : Bool := false
  unicodeStrings : Bool := false
  /-- Whether a string may stand between dollar signs. -/
  dollarStrings : Bool := true
  /-- Whether a question mark starts a placeholder. -/
  questionPlaceholders : Bool := true
  /-- Whether a word may start with digits. -/
  digitWords : Bool := false
  /-- Whether an underscore may stand between digits. -/
  digitSeparators : Bool := false
  operators : List Operator
  /-- Whether operators may go on with a character. -/
  isOperatorPart : Char → Bool := fun _ => false

namespace Lexicon

/-- The operators of all dialects, longer ones before those they start with. -/
def commonOperators : List Operator :=
  [{ spelling := "!~~*", ending := .closed }, { spelling := "->>" }, { spelling := "||/" },
    { spelling := "!~*", ending := .closed }, { spelling := "!~~", ending := .closed },
    { spelling := "<=>" }, { spelling := "~~*" }, { spelling := "#>>" }, { spelling := "->" },
    { spelling := "||" }, { spelling := "|/" }, { spelling := "=>", ending := .closed },
    { spelling := "==", ending := .closed },
    { spelling := "!=", shown := "<>", ending := .closed },
    { spelling := "!!", ending := .closed }, { spelling := "!~", ending := .closed },
    { spelling := "<=" }, { spelling := "<>" }, { spelling := "<<" }, { spelling := "<@" },
    { spelling := ">=" }, { spelling := ">>" }, { spelling := "::", ending := .closed },
    { spelling := ":=", ending := .closed }, { spelling := "&&" },
    { spelling := "^@", ending := .closed }, { spelling := "~*" }, { spelling := "~~" },
    { spelling := "#-" }, { spelling := "#>" }, { spelling := "@>", ending := .closed },
    { spelling := "@?", ending := .closed }, { spelling := "@@", ending := .closed },
    { spelling := "-" }, { spelling := "%" }, { spelling := "|" }, { spelling := "<" },
    { spelling := ">" }, { spelling := "&" }, { spelling := "~" }, { spelling := "#" }]

/-- The operators on geometric values, longer ones before those they start with. -/
def geometricOperators : List Operator :=
  [{ spelling := "?||", ending := .closed }, { spelling := "?-|", ending := .closed },
    { spelling := "|&>" }, { spelling := "|>>" }, { spelling := "<<|" }, { spelling := "<->" },
    { spelling := "&<|", ending := .closed }, { spelling := "@-@", ending := .closed },
    { spelling := "?|", ending := .closed }, { spelling := "?&", ending := .closed },
    { spelling := "?-", ending := .closed }, { spelling := "?#", ending := .closed },
    { spelling := "|&", ending := .unfinished }, { spelling := "|>", ending := .unfinished },
    { spelling := "<|", shown := "<<|" }, { spelling := "<-", ending := .unfinished },
    { spelling := "<^" }, { spelling := ">^" }, { spelling := "&>", ending := .closed },
    { spelling := "&<" }, { spelling := "~=" }, { spelling := "##" },
    { spelling := "@-", ending := .unfinished }]

/-- Whether a character is beyond ASCII. -/
def isForeign (c : Char) : Bool :=
  0x80 ≤ c.toNat

/-- Words of MySQL start with a letter, one of three signs, or any character beyond ASCII. -/
def mySql : Lexicon where
  isWordStart c := Text.isLetter c || c = '_' || c = '$' || c = '@' || isForeign c
  isWordPart c :=
    Text.isLetter c || c.isDigit || c = '_' || c = '$' || c = '@' || isForeign c
  nameDelimiters := ['\x60']
  hashComments := true
  spacedComments := true
  backslashEscapes := true
  bitStrings := true
  digitWords := true
  operators := commonOperators

/-- PostgreSQL has literals, operators and placeholders of its own. -/
def postgreSql : Lexicon where
  isWordStart c := Text.isLetter c || c = '_' || isForeign c
  isWordPart c := Text.isLetter c || c.isDigit || c = '_' || c = '$' || isForeign c
  nameDelimiters := ['"']
  nestedComments := true
  returnEndsComment := true
  bitStrings := true
  escapedStrings := true
  unicodeStrings := true
  questionPlaceholders := false
  digitSeparators := true
  operators := geometricOperators ++ commonOperators
  isOperatorPart c := "+-*/<>=~!@#%^&|\x60?".toList.contains c

/-- SQLite takes every character of the basic plane beyond the visible ones of ASCII for a letter,
and dollar signs for the start of a placeholder. -/
def sqlite : Lexicon where
  isWordStart c := c.isAlpha || c = '_' || (0x7f ≤ c.toNat && c.toNat ≤ 0xffff)
  isWordPart c := c.isAlphanum || c = '_' || (0x7f ≤ c.toNat && c.toNat ≤ 0xffff)
  nameDelimiters := ['\x60', '"', '[']
  dollarStrings := false
  operators := commonOperators

/-- Words of SQL Server may start with a number sign or an at sign. -/
def sqlServer : Lexicon where
  isWordStart c := Text.isLetter c || c = '_' || c = '#' || c = '@'
  isWordPart c := Text.isLetter c || c.isDigit || c = '_' || c = '$' || c = '#' || c = '@'
  nameDelimiters := ['"', '[']
  nestedComments := true
  operators := commonOperators

/-- The lexical rules of a dialect. -/
def of : Dialect → Lexicon
  | .mySql => mySql
  | .postgreSql => postgreSql
  | .sqlite => sqlite
  | .sqlServer => sqlServer

end Lexicon

end Syntax

end EntityRelation
