import EntityRelation.Project.Basic

/-!
# Repositories

A repository holds projects, the newest first. It numbers them as they are created and tells time
by counting its changes, so of two changes the later one has the later instant. A request that
fails leaves the repository alone and takes neither a number nor time.
-/

namespace EntityRelation

/-- Why a repository refuses a request. -/
inductive RepositoryError where
  | notFound
  | emptyName
  deriving DecidableEq, Repr

namespace RepositoryError

/-- The wording of an error. -/
def message : RepositoryError → String
  | notFound => "Project not found"
  | emptyName => "Project name cannot be empty"

end RepositoryError

/-- Stored projects. -/
structure Repository where
  /-- The newest project first. -/
  projects : List Project := []
  /-- How many projects have been created. -/
  created : Nat := 0
  /-- How many changes there have been. -/
  clock : Nat := 0

namespace Repository

/-- The instant of the next change. -/
def now (r : Repository) : Instant :=
  ⟨r.clock, 0⟩

/-- How many projects there are. -/
def size (r : Repository) : Nat :=
  r.projects.length

/-- The project of an id. -/
def find? (r : Repository) (id : ProjectId) : Option Project :=
  r.projects.find? (·.id == id)

/-- The name of a project as it is stored. -/
def checkedName (name : String) : Except RepositoryError String :=
  let name := Text.trimmed name
  if name.isEmpty then .error .emptyName else .ok name

/-- Create a project. -/
def create (r : Repository) (draft : ProjectDraft) :
    Except RepositoryError (Project × Repository) := do
  let name ← checkedName draft.name
  let project : Project :=
    { id := .issued (r.created + 1)
      name
      description := draft.description
      prompt := draft.prompt
      dialect := draft.dialect
      schema := draft.schema
      script := draft.script
      createdAt := r.now
      updatedAt := r.now }
  return (project, ⟨project :: r.projects, r.created + 1, r.clock + 1⟩)

/-- A project after a change. -/
def changed (p : Project) (name : Option String) (change : ProjectChange) (now : Instant) :
    Project :=
  { p with
    name := name.getD p.name
    description := change.description.or p.description
    prompt := change.prompt.or p.prompt
    dialect := change.dialect.getD p.dialect
    schema := change.schema.getD p.schema
    script := change.script.getD p.script
    updatedAt := now }

/-- Update the project of an id. -/
def update (r : Repository) (id : ProjectId) (change : ProjectChange) :
    Except RepositoryError (Project × Repository) := do
  let name ← change.name.mapM checkedName
  match r.find? id with
  | none => throw .notFound
  | some p =>
    let p := changed p name change r.now
    return (p,
      { r with projects := updateFirst (·.id == id) (fun _ => p) r.projects, clock := r.clock + 1 })

/-- Delete the project of an id. -/
def delete (r : Repository) (id : ProjectId) : Except RepositoryError Repository :=
  match r.find? id with
  | none => .error .notFound
  | some _ =>
    .ok { r with projects := eraseFirst (·.id == id) r.projects, clock := r.clock + 1 }

end Repository

end EntityRelation
