import EntityRelation.Script.Basic
import EntityRelation.Text.Digit

/-!
# Configuration

Three settings come from the environment: the dialect, how many edits can be undone, and whether
scripts note positions. A setting that is absent or cannot be read has its standard value.
-/

namespace EntityRelation

/-- The settings of a session. -/
structure Config where
  dialect : Dialect := .standard
  historyLimit : Nat := 50
  includePositions : Bool := false
  deriving DecidableEq, Repr

namespace Config

/-- How the environment calls the dialect. -/
def dialectKey : String := "ERDSYNC_DIALECT"

/-- How the environment calls the limit on undoing. -/
def historyLimitKey : String := "ERDSYNC_HISTORY_LIMIT"

/-- How the environment calls the setting for positions. -/
def includePositionsKey : String := "ERDSYNC_INCLUDE_POSITIONS"

/-- Read a positive number below `2 ^ 64`, with an optional plus sign. -/
def positive? (text : String) : Option Nat :=
  let cs := Text.trim text.toList
  let digits :=
    match cs with
    | '+' :: rest => rest
    | _ => cs
  if digits.isEmpty || !digits.all Char.isDigit then none
  else
    let n := Text.decimalValue digits
    if 0 < n ∧ n < Nat.pow 2 64 then some n else none

/-- Read a truth value, in any ASCII case. -/
def flag? (text : String) : Option Bool :=
  match Text.asciiLower (Text.trimmed text) with
  | "1" | "true" | "yes" | "on" => some true
  | "0" | "false" | "no" | "off" => some false
  | _ => none

/-- The settings of an environment. -/
def ofLookup (lookup : String → Option String) : Config where
  dialect := ((lookup dialectKey).bind fun text => (Dialect.parse text).toOption).getD .standard
  historyLimit := ((lookup historyLimitKey).bind positive?).getD 50
  includePositions := ((lookup includePositionsKey).bind flag?).getD false

/-- How scripts are written under the settings. -/
def scriptOptions (c : Config) : ScriptOptions where
  dialect := c.dialect
  includePositions := c.includePositions

end Config

end EntityRelation
