import EntityRelation.Session.Basic

/-!
# Workspaces

A workspace is a session together with what it shares with others: the repository, and the ids for
what is new. A `SessionStep` is one thing that a user does. A step that fails leaves the whole
workspace as it is.
-/

namespace EntityRelation

/-- A session, its repository and its ids. -/
structure Workspace where
  session : Session
  repository : Repository := {}
  ids : IdSupply := {}

/-- One thing that a user does. -/
inductive SessionStep where
  | apply (edit : SessionEdit)
  | undo
  | redo
  | script
  | diagram
  | commit
  | setDialect (dialect : Dialect)
  | generate (prompt : String) (answer : ServiceAnswer)
  | save (name : String)
  | openProject (id : ProjectId) (config : Config)
  | deleteProject (id : ProjectId)
  | countProjects

/-- What a step answers. -/
inductive SessionAnswer where
  | done
  | wasPossible (answer : Bool)
  | text (text : String)
  | diagram (diagram : Diagram)
  | issues (issues : List Issue)
  | project (project : Project)
  | count (n : Nat)

namespace Workspace

/-- A workspace with nothing in it. -/
def new (config : Config) : Workspace where
  session := .new config

/-- The workspace after going back or forward, if that is possible. -/
def travel (w : Workspace) (target : Option Session) : SessionAnswer × Workspace :=
  match target with
  | some session => (.wasPossible true, { w with session })
  | none => (.wasPossible false, w)

/-- What a step answers and the workspace after it. -/
def perform (w : Workspace) : SessionStep → Except SessionError (SessionAnswer × Workspace)
  | .apply edit => do
    let (session, ids) ← w.session.apply w.ids edit
    return (.done, { w with session, ids })
  | .undo => .ok (w.travel w.session.undo?)
  | .redo => .ok (w.travel w.session.redo?)
  | .script => .ok (.text w.session.script, w)
  | .diagram => .ok (.diagram w.session.diagram, w)
  | .commit => do
    let (script, session) ← w.session.commit
    return (.text script, { w with session })
  | .setDialect dialect => .ok (.done, { w with session := w.session.setDialect dialect })
  | .generate prompt answer => do
    let (issues, session) ← w.session.generate prompt answer
    return (.issues issues, { w with session })
  | .save name => do
    let (project, session, repository) ← w.session.save w.repository name
    return (.project project, { w with session, repository })
  | .openProject id config => do
    let session ← Session.open? w.repository config id
    return (.done, { w with session })
  | .deleteProject id => do
    let repository ← (w.repository.delete id).mapError .repository
    return (.done, { w with repository })
  | .countProjects => .ok (.count w.repository.size, w)

/-- The workspace after a step, whether it succeeds or not. -/
def step (w : Workspace) (s : SessionStep) : Workspace :=
  match w.perform s with
  | .ok (_, w) => w
  | .error _ => w

/-- The workspace after several steps. -/
def run (w : Workspace) (steps : List SessionStep) : Workspace :=
  steps.foldl step w

end Workspace

end EntityRelation
