import EntityRelation.Source.Position

/-!
# Diagnostics

A diagnostic is a remark about a script, with the place it is about where there is one. A report
collects the diagnostics of one check; it is valid as long as none of them is an error.
-/

namespace EntityRelation

open Decoder (slot)

/-- How serious a diagnostic is. -/
inductive Severity where
  | error
  | warning
  | hint
  deriving DecidableEq, Repr, Inhabited

namespace Severity

/-- The word for a severity. -/
def word : Severity → String
  | error => "error"
  | warning => "warning"
  | hint => "hint"

/-- The severity of a word. -/
def ofWord? : String → Option Severity
  | "error" => some error
  | "warning" => some warning
  | "hint" => some hint
  | _ => none

def choices : List (String × Severity) :=
  [("Error", error), ("Warning", warning), ("Hint", hint)]

def toJson : Severity → Json
  | error => .text "Error"
  | warning => .text "Warning"
  | hint => .text "Hint"

def ofJson : Decoder Severity :=
  Decoder.choice choices

end Severity

/-- A remark about a script. -/
structure Diagnostic where
  severity : Severity
  message : String
  span : Option Source.Span := none
  /-- What kind of remark this is. -/
  code : String
  suggestion : Option String := none
  deriving DecidableEq, Repr, Inhabited

namespace Diagnostic

/-- A diagnostic in one line. -/
def toText (d : Diagnostic) : String :=
  "[" ++ d.severity.word ++ "] " ++ d.message ++
    match d.span with
    | some span =>
      " at line " ++ toString span.start.line ++ ", column " ++ toString span.start.column
    | none => ""

/-- A diagnostic in a list of several. -/
def listing (d : Diagnostic) : String :=
  let place :=
    match d.span with
    | some span => " [L" ++ toString span.start.line ++ ":" ++ toString span.start.column ++ "]"
    | none => ""
  let suggestion :=
    match d.suggestion with
    | some text => "  suggestion: " ++ text ++ "\n"
    | none => ""
  d.severity.word ++ place ++ ": " ++ d.message ++ "\n" ++ suggestion

def toJson (d : Diagnostic) : Json :=
  .object
    [("severity", d.severity.toJson), ("message", .text d.message),
      ("span", .ofOption Source.Span.toJson d.span), ("code", .text d.code),
      ("suggestion", .ofOption .text d.suggestion)]

def slots : List (Decoder.Slot Diagnostic) :=
  [slot "severity" .required Severity.ofJson fun severity d => { d with severity },
    slot "message" .required Decoder.text fun message d => { d with message },
    slot "span" .optional (Decoder.option Source.Span.ofJson) fun span d => { d with span },
    slot "code" .required Decoder.text fun code d => { d with code },
    slot "suggestion" .optional (Decoder.option Decoder.text)
      fun suggestion d => { d with suggestion }]

def ofJson : Decoder Diagnostic :=
  Decoder.record "struct SqlDiagnostic" default slots

end Diagnostic

/-- The outcome of a check. -/
structure CheckReport where
  diagnostics : List Diagnostic := []
  isValid : Bool := true
  statementCount : Nat := 0
  tableCount : Nat := 0
  deriving DecidableEq, Repr, Inhabited

namespace CheckReport

/-- The report with one more diagnostic. -/
def push (r : CheckReport) (d : Diagnostic) : CheckReport :=
  { r with
    diagnostics := r.diagnostics ++ [d]
    isValid := r.isValid && d.severity != .error }

/-- The diagnostics that are errors. -/
def errors (r : CheckReport) : List Diagnostic :=
  r.diagnostics.filter (·.severity == .error)

/-- A report as plain text. -/
def toText (r : CheckReport) : String :=
  (if r.diagnostics.isEmpty then "No issues found\n"
  else String.join (r.diagnostics.map Diagnostic.listing)) ++
    toString r.statementCount ++ " statements, " ++ toString r.tableCount ++ " tables"

def toJson (r : CheckReport) : Json :=
  .object
    [("diagnostics", .ofList Diagnostic.toJson r.diagnostics), ("is_valid", .bool r.isValid),
      ("statement_count", .ofNat r.statementCount), ("table_count", .ofNat r.tableCount)]

def slots : List (Decoder.Slot CheckReport) :=
  [slot "diagnostics" .required (Decoder.list Diagnostic.ofJson)
      fun diagnostics r => { r with diagnostics },
    slot "is_valid" .required Decoder.bool fun isValid r => { r with isValid },
    slot "statement_count" .required Decoder.nat fun statementCount r => { r with statementCount },
    slot "table_count" .required Decoder.nat fun tableCount r => { r with tableCount }]

def ofJson : Decoder CheckReport :=
  Decoder.record "struct SqlCheckReport" {} slots

end CheckReport

end EntityRelation
