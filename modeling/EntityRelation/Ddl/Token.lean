import EntityRelation.Source.Place
import EntityRelation.Text.Case

/-!
# Tokens of the data definition language

A lexeme is a token together with the source text that it covers. Blanks are not lexemes, but a
lexeme knows whether blanks or a comment stand before it: that is all that the reader of column
types and defaults keeps of the layout.

A word is a keyword when its full upper case is, so `unique` and `unıque` are both `UNIQUE`. Words
between delimiters are never keywords.
-/

namespace EntityRelation

namespace Ddl

/-- The words with a meaning in table definitions. -/
inductive Keyword where
  | primary
  | notWord
  | null
  | unique
  | defaultWord
  | references
  | check
  | constraint
  | autoIncrement
  | autoincrement
  | identity
  | collate
  | generated
  | comment
  | on
  | charset
  | asWord
  | character
  | setWord
  | key
  | always
  | byWord
  | stored
  | virtual
  | update
  | delete
  | no
  | foreign
  | index
  | fulltext
  | spatial
  | exclude
  | usingWord
  | like
  | including
  | excluding
  | period
  | forWord
  | create
  | orWord
  | replace
  | temporary
  | temp
  | global
  | localWord
  | unlogged
  | table
  | ifWord
  | existsWord
  | alter
  | only
  | add
  | column
  deriving DecidableEq, Repr

namespace Keyword

/-- Every keyword with its spelling. -/
def spellings : List (Keyword × String) :=
  [(.primary, "PRIMARY"), (.notWord, "NOT"), (.null, "NULL"),
   (.unique, "UNIQUE"), (.defaultWord, "DEFAULT"), (.references, "REFERENCES"),
   (.check, "CHECK"), (.constraint, "CONSTRAINT"), (.autoIncrement, "AUTO_INCREMENT"),
   (.autoincrement, "AUTOINCREMENT"), (.identity, "IDENTITY"), (.collate, "COLLATE"),
   (.generated, "GENERATED"), (.comment, "COMMENT"), (.on, "ON"),
   (.charset, "CHARSET"), (.asWord, "AS"), (.character, "CHARACTER"),
   (.setWord, "SET"), (.key, "KEY"), (.always, "ALWAYS"),
   (.byWord, "BY"), (.stored, "STORED"), (.virtual, "VIRTUAL"),
   (.update, "UPDATE"), (.delete, "DELETE"), (.no, "NO"),
   (.foreign, "FOREIGN"), (.index, "INDEX"), (.fulltext, "FULLTEXT"),
   (.spatial, "SPATIAL"), (.exclude, "EXCLUDE"), (.usingWord, "USING"),
   (.like, "LIKE"), (.including, "INCLUDING"), (.excluding, "EXCLUDING"),
   (.period, "PERIOD"), (.forWord, "FOR"), (.create, "CREATE"),
   (.orWord, "OR"), (.replace, "REPLACE"), (.temporary, "TEMPORARY"),
   (.temp, "TEMP"), (.global, "GLOBAL"), (.localWord, "LOCAL"),
   (.unlogged, "UNLOGGED"), (.table, "TABLE"), (.ifWord, "IF"),
   (.existsWord, "EXISTS"), (.alter, "ALTER"), (.only, "ONLY"),
   (.add, "ADD"), (.column, "COLUMN")]

/-- The keyword that a word without delimiters spells. -/
def ofWord? (word : String) : Option Keyword :=
  let upper := String.ofList (Text.toUpper word.toList)
  (spellings.find? (·.2 == upper)).map (·.1)

end Keyword

/-- A token. Numbers, operators and the strings that no clause reads carry no value. -/
inductive Token where
  /-- A word without delimiters. -/
  | word (value : String)
  /-- A word between delimiters, with doubled delimiters resolved. -/
  | quotedWord (value : String)
  /-- A text between single quotes, with doubled quotes resolved. -/
  | string (value : String)
  | leftParen
  | rightParen
  | comma
  | semicolon
  | period
  | comment
  | number
  /-- A string of another kind: national, hexadecimal, or between dollar signs. -/
  | otherString
  /-- A placeholder, an operator, or a character that means nothing here. -/
  | symbol
  deriving DecidableEq, Repr

namespace Token

/-- The keyword that a token is. -/
def keyword? : Token → Option Keyword
  | word value => Keyword.ofWord? value
  | _ => none

/-- Whether a token is a word, with or without delimiters. -/
def isWord : Token → Bool
  | word _ | quotedWord _ => true
  | _ => false

/-- The name that a token gives. Texts between single quotes serve as names too. -/
def name? : Token → Option String
  | word value | quotedWord value | string value => some value
  | _ => none

end Token

/-- A token with its source text. -/
structure Lexeme where
  token : Token
  text : String
  /-- Where the text starts. -/
  place : Source.Place
  /-- Whether blanks or a comment stand right before it. -/
  spaced : Bool
  deriving DecidableEq, Repr

namespace Lexeme

/-- The line that the lexeme starts on. -/
def line (l : Lexeme) : Nat :=
  l.place.line

/-- The keyword that the lexeme is. -/
def keyword? (l : Lexeme) : Option Keyword :=
  l.token.keyword?

/-- Whether the lexeme is the keyword. -/
def isKeyword (l : Lexeme) (k : Keyword) : Bool :=
  l.keyword? == some k

/-- Whether the lexeme is one of the keywords. -/
def isAny (l : Lexeme) (ks : List Keyword) : Bool :=
  ks.any l.isKeyword

/-- Whether the lexeme is a word without delimiters that is spelled like this in some ASCII
case. -/
def isSpelled (l : Lexeme) (spelling : String) : Bool :=
  match l.token with
  | .word value => Text.sameName value spelling
  | _ => false

/-- The name that the lexeme gives. -/
def name? (l : Lexeme) : Option String :=
  l.token.name?

/-- Whether the lexeme gives a name. -/
def isName (l : Lexeme) : Bool :=
  l.name?.isSome

end Lexeme

end Ddl

end EntityRelation
