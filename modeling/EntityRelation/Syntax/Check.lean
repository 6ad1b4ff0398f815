import EntityRelation.Source.LineStarts
import EntityRelation.Syntax.Diagnostic
import EntityRelation.Syntax.Lexer
import EntityRelation.Syntax.Statement

/-!
# Checking a script

The check reads a script strictly and reports the first syntax error with its place and some
advice. It only informs: what is imported from a script does not depend on it. A script without
errors and without a table definition gets a warning.
-/

namespace EntityRelation

namespace Syntax

/-- For each statement of a script, whether it defines a table. -/
def readScript (d : Dialect) (sql : String) : Except SyntaxError (List Bool) := do
  statements d (← (Lexer.lexemes d sql).mapError .lexical)

/-- The diagnostic of a syntax error. -/
def SyntaxError.diagnostic (sql : String) (e : SyntaxError) : Diagnostic where
  severity := .error
  message := e.message
  span := e.place?.map fun place => .single ((Source.LineStarts.ofText sql.toList).position place)
  code := "E001_SYNTAX_ERROR"
  suggestion := e.suggestion?

/-- The diagnostic of a script that defines no table. -/
def noTables : Diagnostic where
  severity := .warning
  message := "No CREATE TABLE statement found"
  code := "W001_NO_TABLES"
  suggestion := some "Only table definitions are imported into the diagram."

end Syntax

open Syntax in
/-- Check the syntax of a script. -/
def checkScript (d : Dialect) (sql : String) : CheckReport :=
  match readScript d sql with
  | .error e => CheckReport.push {} (e.diagnostic sql)
  | .ok statements =>
    let report : CheckReport :=
      { statementCount := statements.length, tableCount := statements.countP id }
    if report.tableCount = 0 then report.push noTables else report

end EntityRelation
