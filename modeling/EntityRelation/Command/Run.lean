import EntityRelation.Command.Arguments
import EntityRelation.Command.Directory
import EntityRelation.Config
import EntityRelation.Diagram.Wire
import EntityRelation.Environment.SettingsFile
import EntityRelation.Json.Printer
import EntityRelation.Session.Edit
import EntityRelation.Script.Render
import EntityRelation.Syntax.Check
import EntityRelation.Validation.Validator

/-!
# Running commands

A command turns the text of its file into output, or into a failure with a message. Output that
comes before a failure stays. Arguments that give no command end the program with an exit code of
their own, and so does a settings file that the environment cannot take. `execute` is the whole
program, up to how a file is read: a settings file, if there is one, supplies the environment that
the configuration comes from.
-/

namespace EntityRelation

namespace Command

/-- Why a command fails. -/
inductive Failure where
  | unreadable (file : String) (fault : ReadFault)
  | noSchema (file : String) (error : Ddl.ImportError)
  /-- The check found no schema. -/
  | nothingToCheck (error : Ddl.ImportError)
  | problems (file : String)

/-- A message and what caused it. -/
def withCause (message cause : String) : String :=
  let indented := cause.toList.flatMap fun c =>
    if c = '\n' then '\n' :: List.replicate 4 ' ' else [c]
  message ++ "\n\nCaused by:\n    " ++ String.ofList indented

/-- The wording of a failure. -/
def Failure.message : Failure → String
  | unreadable file fault => withCause ("Failed to read " ++ file) fault.message
  | noSchema file error => withCause ("No usable table definitions in " ++ file) error.message
  | nothingToCheck error => error.message
  | problems file => file ++ " has problems"

/-- What a run of the program leaves behind. -/
structure Result where
  exitCode : Nat
  output : String
  /-- What is written next to the output when the run fails. -/
  errorOutput : Option String
  deriving DecidableEq, Repr

namespace Result

/-- The result of a command that succeeds. -/
def success (output : String) : Result :=
  ⟨0, output, none⟩

/-- The result of a command that fails after some output. -/
def failure (output : String) (f : Failure) : Result :=
  ⟨1, output, some ("Error: " ++ f.message ++ "\n")⟩

/-- The result of arguments that give no command. -/
def usage : Result :=
  ⟨2, "", none⟩

/-- The result of a settings file with a value that no environment can hold. -/
def breakdown : Result :=
  ⟨101, "", none⟩

end Result

/-- A text as a line. -/
def line (text : String) : String :=
  text ++ "\n"

/-- How `convert` writes the script. -/
def convertOptions (config : Config) (dialect : Option Dialect)
    (positions drops dependencyOrder : Bool) : ScriptOptions where
  dialect := dialect.getD config.dialect
  includePositions := config.includePositions || positions
  includeDrops := drops
  order := if dependencyOrder then .dependencies else .insertion

/-- How `layout` writes the script. -/
def layoutOptions (config : Config) (dialect : Option Dialect) : ScriptOptions where
  dialect := dialect.getD config.dialect
  includePositions := true

/-- What the check says about an imported script. -/
def findings (report : Ddl.ImportReport) (validation : ValidationReport) : String :=
  String.join
    (report.skipped.map (fun s =>
        line ("skipped [L" ++ toString s.line ++ "]: " ++ s.fault.message)) ++
      report.warnings.map (fun w => line ("warning: " ++ w.message)) ++
      validation.warnings.map (fun i => line ("warning: " ++ i.message)) ++
      validation.errors.map fun i => line ("error: " ++ i.message))

/-- Check the text of a file. -/
def runCheck (file : String) (dialect : Dialect) (sql : String) : Result :=
  let checked := checkScript dialect sql
  let output := line checked.toText
  match Ddl.importScript sql with
  | .error e => .failure output (.nothingToCheck e)
  | .ok report =>
    let validation := Validator.validate { dialect := some dialect } report.schema
    let output := output ++ findings report validation
    if checked.isValid && validation.isValid then .success output
    else .failure output (.problems file)

/-- Carry out a command that works on the schema of its file. -/
def withSchema (file sql : String) (f : Schema → String) : Result :=
  match Ddl.importScript sql with
  | .error e => .failure "" (.noSchema file e)
  | .ok report => .success (f report.schema)

/-- Carry out a command on the text of its file. -/
def runOn (config : Config) (sql : String) : Command → Result
  | convert file dialect positions drops dependencyOrder =>
    withSchema file sql fun s =>
      s.toScript (convertOptions config dialect positions drops dependencyOrder)
  | check file dialect => runCheck file (dialect.getD config.dialect) sql
  | graph file => withSchema file sql fun s => line (Diagram.ofSchema s).toJson.pretty
  | layout file dialect force =>
    withSchema file sql fun s =>
      (s.arrange (if force then .force else .grid)).toScript (layoutOptions config dialect)

/-- Carry out a command on its file, which may be unreadable. -/
def run (config : Config) (content : Except ReadFault String) (c : Command) : Result :=
  match content with
  | .error fault => .failure "" (.unreadable c.file fault)
  | .ok sql => c.runOn config sql

/-- The name of the settings file. -/
def settingsFile : String := ".env"

/-- An environment with the values of the settings file, which may be unreadable, if it can hold
them. -/
def supplied? (environment : Environment) : Except ReadFault String → Option Environment
  | .ok text => environment.load? text
  | .error _ => some environment

/-- Run the program, where `read` gives the texts of files. -/
def execute {m : Type → Type} [Monad m] (read : String → m (Except ReadFault String))
    (environment : Environment) (arguments : List String) : m Result := do
  match supplied? environment (← read settingsFile), ofArguments arguments with
  | none, _ => return .breakdown
  | some _, none => return .usage
  | some environment, some c => return c.run (Config.ofLookup environment.get?) (← read c.file)

end Command

end EntityRelation
