import EntityRelation.Ddl.Column
import EntityRelation.Ddl.Lexer

/-!
# What an import reports

Reading a script never stops at a bad definition. A table that cannot be read is left out and kept
as a `Skipped` statement, and everything smaller becomes a `Warning`. Both hold their cause; the
wording is in `message`. An `ImportError` arises only when nothing usable is left.
-/

namespace EntityRelation

namespace Ddl

/-- Why a table definition is left out. -/
inductive TableFault where
  | missingName
  | noColumnList (table : String)
  | unbalanced (table : String)
  | noColumns (table : String)
  | noUsableColumns (table : String)
  deriving DecidableEq, Repr

namespace TableFault

/-- The wording of a fault. -/
def message : TableFault → String
  | missingName => "missing table name"
  | noColumnList table => "expected a column list after table '" ++ table ++ "'"
  | unbalanced table => "unbalanced parentheses in table '" ++ table ++ "'"
  | noColumns table => "table '" ++ table ++ "' has no columns"
  | noUsableColumns table => "table '" ++ table ++ "' has no usable columns"

end TableFault

/-- A table definition that was left out. -/
structure Skipped where
  line : Nat
  fault : TableFault
  snippet : String
  deriving DecidableEq, Repr

/-- Why a part of a definition has no effect. -/
inductive WarningCause where
  | columnSkipped (table : String) (fault : ColumnFault)
  | duplicateColumn (table column : String)
  | unknownKeyColumn (table column : String)
  | foreignKeyWithoutTable (table : String)
  | duplicateTable (table : String)
  | alterWithoutName
  | alterUnknownTable (table : String)
  | foreignKeyOnUnknownColumn (table column : String)
  | foreignKeyToUnknownTable (table column parent : String)
  | foreignKeyToUnknownColumn (table column parent : String)
  deriving DecidableEq, Repr

namespace WarningCause

/-- The wording of a cause. -/
def message : WarningCause → String
  | columnSkipped table fault =>
    "table '" ++ table ++ "': " ++ fault.message ++ ", column skipped"
  | duplicateColumn table column =>
    "table '" ++ table ++ "': duplicate column '" ++ column ++ "' skipped"
  | unknownKeyColumn table column =>
    "table '" ++ table ++ "': PRIMARY KEY names unknown column '" ++ column ++ "'"
  | foreignKeyWithoutTable table =>
    "table '" ++ table ++ "': FOREIGN KEY without REFERENCES ignored"
  | duplicateTable table => "duplicate table '" ++ table ++ "' skipped"
  | alterWithoutName => "ALTER TABLE without a table name ignored"
  | alterUnknownTable table => "ALTER TABLE on unknown table '" ++ table ++ "' ignored"
  | foreignKeyOnUnknownColumn table column =>
    "foreign key on unknown column '" ++ table ++ "." ++ column ++ "' ignored"
  | foreignKeyToUnknownTable table column parent =>
    "foreign key '" ++ table ++ "." ++ column ++ "' references unknown table '" ++ parent ++ "'"
  | foreignKeyToUnknownColumn table column parent =>
    "foreign key '" ++ table ++ "." ++ column ++ "' references unknown column in '" ++ parent ++ "'"

end WarningCause

/-- A part of a definition that has no effect, by the line of its statement. -/
structure Warning where
  line : Nat
  cause : WarningCause
  deriving DecidableEq, Repr

/-- A text that belongs to a line. -/
def atLine (line : Nat) (text : String) : String :=
  "line " ++ toString line ++ ": " ++ text

/-- The wording of a warning. -/
def Warning.message (w : Warning) : String :=
  atLine w.line w.cause.message

/-- Why a script gives no schema. -/
inductive ImportError where
  /-- No statement creates a table. -/
  | noTables
  /-- The script cannot be cut into tokens. -/
  | lexical (error : LexicalError)
  /-- Every table was left out; the first of them. -/
  | allSkipped (first : Skipped)
  deriving DecidableEq, Repr

namespace ImportError

/-- The wording of an error. -/
def message : ImportError → String
  | noTables => "no CREATE TABLE statement found"
  | lexical error => atLine error.place.line error.fault.message
  | allSkipped first => atLine first.line first.fault.message

end ImportError

end Ddl

end EntityRelation
