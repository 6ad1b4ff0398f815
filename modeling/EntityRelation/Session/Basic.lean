import EntityRelation.Config
import EntityRelation.Diagram.Basic
import EntityRelation.Generation.Request
import EntityRelation.Project.Repository
import EntityRelation.Script.Render
import EntityRelation.Session.Edit
import EntityRelation.Session.History
import EntityRelation.Validation.Validator

/-!
# Sessions

A session holds the schema that is being edited. Edits are carried out without asking the
validator; `Session.commit` is where the validator decides whether the schema becomes a script.
Every accepted edit can be undone. A session may be bound to a project, which it then updates when
it is saved. A step that fails returns no session, so the session it started from stays.
-/

namespace EntityRelation

/-- Why a step of a session fails. -/
inductive SessionError where
  | edit (error : EditError)
  | service (error : ServiceError)
  | repository (error : RepositoryError)
  | invalid (issues : List Issue)
  | projectNotFound (id : ProjectId)

namespace SessionError

/-- The wording of an error. -/
def message : SessionError → String
  | edit (.importFailed e) => e.message
  | edit (.rejected e) => e.message
  | service e => e.message
  | repository e => e.message
  | invalid issues =>
    "Schema has " ++ toString issues.length ++ " problem(s): " ++
      String.intercalate "; " (issues.map Issue.message)
  | projectNotFound id => "Project " ++ id.toText ++ " not found"

end SessionError

/-- A schema that is being edited. -/
structure Session where
  schema : Schema := {}
  history : History Schema
  options : ScriptOptions
  project : Option ProjectId := none
  prompt : Option String := none
  /-- The script of the last commit, of the last generated schema, or of the opened project. -/
  committed : Option String := none

namespace Session

/-- A session with nothing in it. -/
def new (config : Config) : Session where
  history := History.new config.historyLimit
  options := config.scriptOptions

/-- The dialect of the session's scripts. -/
def dialect (s : Session) : Dialect :=
  s.options.dialect

/-- The session under another dialect. -/
def setDialect (s : Session) (d : Dialect) : Session :=
  { s with options := { s.options with dialect := d } }

/-- The session with another schema, which can be undone. -/
def replace (s : Session) (next : Schema) : Session :=
  { s with schema := next, history := s.history.push s.schema }

/-- The session after an edit, and the ids that are left. -/
def apply (s : Session) (ids : IdSupply) (edit : SessionEdit) :
    Except SessionError (Session × IdSupply) :=
  match edit.perform s.schema ids with
  | .error e => .error (.edit e)
  | .ok (schema, ids) => .ok (s.replace schema, ids)

/-- The session before its last edit, if that can be undone. -/
def undo? (s : Session) : Option Session :=
  (s.history.undo? s.schema).map fun (schema, history) => { s with schema, history }

/-- The session with its last undone edit back in place, if there is one. -/
def redo? (s : Session) : Option Session :=
  (s.history.redo? s.schema).map fun (schema, history) => { s with schema, history }

/-- The schema as a script. -/
def script (s : Session) : String :=
  s.schema.toScript s.options

/-- The schema as a diagram. -/
def diagram (s : Session) : Diagram :=
  .ofSchema s.schema

/-- The script of a schema that the validator accepts, and the session that keeps it. -/
def commit (s : Session) : Except SessionError (String × Session) :=
  let report := Validator.validate { dialect := some s.dialect } s.schema
  if report.isValid then .ok (s.script, { s with committed := some s.script })
  else .error (.invalid report.errors)

/-- The session with a generated schema, and the findings about it. -/
def generate (s : Session) (prompt : String) (answer : ServiceAnswer) :
    Except SessionError (List Issue × Session) :=
  match Generated.ofAnswer prompt answer with
  | .error e => .error (.service e)
  | .ok generated =>
    .ok (generated.warnings,
      { s.replace generated.schema with
        prompt := some prompt
        committed := some generated.script })

/-- The script that is saved: the committed one, or else the current one. -/
def savedScript (s : Session) : String :=
  s.committed.getD s.script

/-- What a session without a project creates one from. -/
def draft (s : Session) (name : String) : ProjectDraft where
  name
  prompt := s.prompt
  dialect := s.dialect
  schema := s.schema
  script := s.savedScript

/-- How a session changes its project. -/
def change (s : Session) (name : String) : ProjectChange where
  name := some name
  prompt := s.prompt
  dialect := some s.dialect
  schema := some s.schema
  script := some s.savedScript

/-- Save the session under a name, as a new project or as its own. -/
def save (s : Session) (r : Repository) (name : String) :
    Except SessionError (Project × Session × Repository) :=
  let saved :=
    match s.project with
    | some id => r.update id (s.change name)
    | none => r.create (s.draft name)
  match saved with
  | .error e => .error (.repository e)
  | .ok (project, r) => .ok (project, { s with project := some project.id }, r)

/-- A session on a saved project. -/
def open? (r : Repository) (config : Config) (id : ProjectId) : Except SessionError Session :=
  match r.find? id with
  | none => .error (.projectNotFound id)
  | some p =>
    .ok
      { (new config).setDialect p.dialect with
        schema := p.schema.syncForeignKeys
        project := some p.id
        prompt := p.prompt
        committed := some p.script }

end Session

end EntityRelation
