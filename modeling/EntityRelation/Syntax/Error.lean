import EntityRelation.Syntax.Token
import EntityRelation.Text.Search

/-!
# Syntax errors

A script is at fault where it cannot be cut into tokens, or where something else stands than the
grammar asks for. The message names what was asked for and what was found. Advice is chosen by the
words of the message.
-/

namespace EntityRelation

namespace Syntax

/-- What the grammar asks for at some point. -/
inductive Expectation where
  | symbol (text : String)
  | keyword (word : String)
  | oneOf (words : List String)
  | statement
  | objectType
  | replaceable
  | droppable
  | endOfStatement
  | identifier
  | aliasName
  | columnOrConstraint
  | separator
  | columnList
  | indexName
  | constraintKind
  | constraintDetails
  | referentialAction
  | matchKind
  | deferral
  | dataType
  | typeModifiers
  | integer
  | number
  | literalNumber
  | literalString
  | commentText
  | listedString
  | listMark
  | expression
  | value
  | concreteValue
  | quotedValue
  | placeholder
  | wordToken
  | stringToken
  | groupToken
  | storage
  | truthTest
  | nameOrStar
  | query
  deriving DecidableEq, Repr

/-- How messages name what is asked for. -/
def Expectation.message : Expectation → String
  | symbol text => text
  | keyword word => word
  | oneOf words => "one of " ++ " or ".intercalate words
  | statement => "an SQL statement"
  | objectType => "an object type after CREATE"
  | replaceable =>
    "[EXTERNAL] TABLE or [MATERIALIZED] VIEW or FUNCTION after CREATE OR REPLACE"
  | droppable =>
    "CONNECTOR, DATABASE, EXTENSION, FUNCTION, INDEX, OPERATOR, POLICY, PROCEDURE, ROLE, " ++
      "SCHEMA, SECRET, SEQUENCE, STAGE, TABLE, TRIGGER, TYPE, VIEW, MATERIALIZED VIEW or USER " ++
      "after DROP"
  | endOfStatement => "end of statement"
  | identifier => "identifier"
  | aliasName => "an identifier after AS"
  | columnOrConstraint => "column name or constraint definition"
  | separator => "',' or ')' after column definition"
  | columnList => "a list of columns in parentheses"
  | indexName => "\x60index_name\x60 or \x60(column_name [, ...])\x60"
  | constraintKind => "PRIMARY, UNIQUE, FOREIGN, or CHECK"
  | constraintDetails => "constraint details after CONSTRAINT <name>"
  | referentialAction => "one of RESTRICT, CASCADE, SET NULL, NO ACTION or SET DEFAULT"
  | matchKind => "one of FULL, PARTIAL or SIMPLE"
  | deferral => "one of DEFERRED or IMMEDIATE"
  | dataType => "a data type name"
  | typeModifiers => "type modifiers"
  | integer => "literal int"
  | number => "number"
  | literalNumber => "literal number"
  | literalString => "literal string"
  | commentText => "string literal"
  | listedString => "a string"
  | listMark => ", or \x7d"
  | expression => "an expression"
  | value => "a value"
  | concreteValue => "a concrete value"
  | quotedValue => "A value?"
  | placeholder => "placeholder"
  | wordToken => "Token::Word"
  | stringToken => "Token::SingleQuotedString"
  | groupToken => "Token::LParen"
  | storage => "Storage type (DISK or MEMORY)"
  | truthTest => "[NOT] NULL | TRUE | FALSE | DISTINCT | [form] NORMALIZED FROM after IS"
  | nameOrStar => "an identifier or a '*' after '.'"
  | query => "SELECT, VALUES, or a subquery in the query body"

/-- The whole numbers that the grammar asks for: those of sixty-four bits, with or without a
sign. -/
inductive IntegerKind where
  | signed
  | unsigned
  deriving DecidableEq, Repr

namespace IntegerKind

/-- How messages name a kind of numbers. -/
def word : IntegerKind → String
  | signed => "i64"
  | unsigned => "u64"

/-- The first number that is too large. -/
def bound : IntegerKind → Nat
  | signed => Nat.pow 2 63
  | unsigned => Nat.pow 2 64

end IntegerKind

/-- Why what stands in a script is refused, whatever stands behind it. -/
inductive Refusal where
  /-- A removal both with what hangs on it and only without. -/
  | contradiction
  | roleRemoval
  /-- A replacement of rows in a dialect that has none. -/
  | replacement
  | bothAllAndDistinct
  | missingUnit
  /-- A selection of nothing. -/
  | missingExpression (found : String)
  | commitAction
  deriving DecidableEq, Repr

/-- The wording of a refusal. -/
def Refusal.message : Refusal → String
  | contradiction => "Cannot specify both CASCADE and RESTRICT in DROP"
  | roleRemoval => "Cannot specify CASCADE, RESTRICT, or PURGE in DROP ROLE"
  | replacement => "Unsupported statement REPLACE"
  | bothAllAndDistinct => "Cannot specify both ALL and DISTINCT"
  | missingUnit => "INTERVAL requires a unit after the literal value"
  | missingExpression found => "Expected an expression, found: " ++ found
  | commitAction => "Expecting DELETE ROWS, PRESERVE ROWS or DROP"

/-- The first fault of a script. -/
inductive SyntaxError where
  | lexical (error : LexicalError)
  /-- Something else was found than expected; nothing is found at the end of the script. -/
  | unexpected (expected : Expectation) (found : Option Lexeme)
  /-- The same where the message keeps the place to itself. -/
  | unplaced (expected : Expectation) (found : Token)
  | badInteger (text : String) (kind : IntegerKind) (place : Source.Place)
  | refused (refusal : Refusal) (place : Option Source.Place)
  | tooDeep
  deriving DecidableEq, Repr

/-- A place as messages show it. -/
def atPlace (p : Source.Place) : String :=
  " at Line: " ++ toString p.line ++ ", Column: " ++ toString p.column

namespace SyntaxError

/-- Where the fault is, unless it is at the end of the script. -/
def place? : SyntaxError → Option Source.Place
  | lexical error => some error.place
  | unexpected _ found => found.map Lexeme.place
  | badInteger _ _ place => some place
  | refused _ place => place
  | unplaced .. | tooDeep => none

/-- What the fault is. -/
def description : SyntaxError → String
  | lexical error => error.fault.message
  | unexpected expected found =>
    "Expected: " ++ expected.message ++ ", found: " ++ (found.map (·.token.shown)).getD "EOF"
  | unplaced expected found => "Expected: " ++ expected.message ++ ", found: " ++ found.shown
  | badInteger text kind _ =>
    "Could not parse '" ++ text ++ "' as " ++ kind.word ++ ": " ++
      if text.toList.all Char.isDigit then "number too large to fit in target type"
      else "invalid digit found in string"
  | refused refusal _ => refusal.message
  | tooDeep => "recursion limit exceeded"

/-- The wording of an error. -/
def message (e : SyntaxError) : String :=
  "sql parser error: " ++ e.description ++ (e.place?.map atPlace).getD ""

/-- Pieces of messages and the advice that goes with them. Earlier ones are preferred. -/
def advice : List (String × String) :=
  [("identifier", "Make sure you have a valid table or column name."),
    ("Expected: )", "Check for matching parentheses."),
    ("Expected: ;", "Add a semicolon at the end of the statement."),
    ("end of statement", "Add a semicolon at the end of the statement."),
    ("Expected: ,", "Separate column definitions with commas."),
    ("Expected", "Check for typos in SQL keywords.")]

/-- The advice for an error. -/
def suggestion? (e : SyntaxError) : Option String :=
  (advice.find? fun entry => Text.occursIn entry.1.toList e.message.toList).map (·.2)

end SyntaxError

end Syntax

end EntityRelation
