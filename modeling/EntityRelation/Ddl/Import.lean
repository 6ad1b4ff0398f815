import EntityRelation.Ddl.Table
import EntityRelation.Schema.ForeignKeys

/-!
# Importing a script

`importScript` reads table definitions and alterations into a schema and passes over every other
statement. The table that comes `i`-th into the schema has the id `entity-i`, its `j`-th column
`field-i-j`, and the `k`-th relationship `relationship-k`. Foreign keys are resolved after the last
statement, so tables may come in any order. Each step takes the draft of the schema to the next:
a definition that is left out adds to the skipped ones and leaves the tables alone.
-/

namespace EntityRelation

namespace Ddl

/-- What has been read so far. -/
structure Draft where
  entities : List Entity := []
  pendingKeys : List PendingKey := []
  skipped : List Skipped := []
  warnings : List Warning := []

/-- What a statement is for. -/
inductive StatementKind where
  /-- It creates a table; the clause follows the word `TABLE`. -/
  | createTable (rest : Clause)
  /-- It alters a table; the clause follows the word `TABLE`. -/
  | alterTable (rest : Clause)
  | other

/-- The words that may stand between `CREATE` and `TABLE`. -/
def tableQualities : List Keyword :=
  [.temporary, .temp, .global, .localWord, .unlogged]

/-- What a statement is for, by its first words. -/
def Statement.kind (s : Statement) : StatementKind :=
  match s.lexemes.after? [.create] with
  | some rest =>
    match ((rest.skip [.orWord, .replace]).skipAll tableQualities).after? [.table] with
    | some rest => .createTable rest
    | none => .other
  | none =>
    match s.lexemes.after? [.alter, .table] with
    | some rest => .alterTable rest
    | none => .other

/-- Whether a statement creates a table. -/
def Statement.createsTable (s : Statement) : Bool :=
  match s.kind with
  | .createTable _ => true
  | _ => false

/-- Columns of the grid on which imported tables stand. -/
def gridColumns : Nat := 3

/-- The position of the table at an index that has none noted. -/
def defaultPosition (index : Nat) : Position where
  x := 100.0 + Float.ofNat (index % gridColumns) * 300.0
  y := 100.0 + Float.ofNat (index / gridColumns) * 250.0

namespace Draft

/-- The draft with one more warning. -/
def warn (draft : Draft) (line : Nat) (cause : WarningCause) : Draft :=
  { draft with warnings := draft.warnings ++ [⟨line, cause⟩] }

/-- The draft with a statement left out. -/
def skip (draft : Draft) (s : Statement) (fault : TableFault) : Draft :=
  { draft with skipped := draft.skipped ++ [⟨s.line, fault, s.snippet⟩] }

/-- The schema of the tables so far. -/
def schema (draft : Draft) : Schema :=
  { entities := draft.entities }

/-- The draft with what a table's clauses gave besides columns. -/
def absorb (draft : Draft) (table : TableDraft) : Draft :=
  { draft with
    pendingKeys := draft.pendingKeys ++ table.pendingKeys
    warnings := draft.warnings ++ table.warnings }

/-- The table at an index before any clause is read. -/
def newTable (index : Nat) (s : Statement) (name : String) : TableDraft where
  entity :=
    { id := ⟨"entity-" ++ toString index⟩
      name
      fields := []
      position := s.position?.getD (defaultPosition index) }

/-- The draft after a table definition with a name and a body. -/
def addTable (draft : Draft) (s : Statement) (name : String) (body : Clause) : Draft :=
  if (draft.schema.entityNamed? name).isSome then
    draft.warn s.line (.duplicateTable name)
  else
    let index := draft.entities.length
    let clauses := body.splitTopLevel
    let columns := (newTable index s name).addColumns index s.line clauses
    if columns.entity.fields.isEmpty then
      (draft.absorb columns).skip s (.noUsableColumns name)
    else
      let table := columns.applyConstraints s.line clauses
      { draft.absorb table with entities := draft.entities ++ [table.entity] }

/-- The draft after a statement that creates a table. -/
def createTable (draft : Draft) (s : Statement) (rest : Clause) : Draft :=
  match tableHeader rest with
  | .error fault => draft.skip s fault
  | .ok (name, body) => draft.addTable s name body

/-- The draft after a statement that alters a table. -/
def alterTable (draft : Draft) (s : Statement) (rest : Clause) : Draft :=
  match ((rest.skip [.only]).skip [.ifWord, .existsWord]).tableName? with
  | none => draft.warn s.line .alterWithoutName
  | some (name, rest) =>
    match draft.entities.findIdx? fun e => Text.sameName e.name name with
    | none => draft.warn s.line (.alterUnknownTable name)
    | some index =>
      match draft.entities[index]? with
      | none => draft
      | some entity =>
        let table := rest.splitTopLevel.foldl (TableDraft.addAction index s.line) { entity }
        { draft.absorb table with entities := draft.entities.set index table.entity }

/-- The draft after a statement. -/
def add (draft : Draft) (s : Statement) : Draft :=
  match s.kind with
  | .createTable rest => draft.createTable s rest
  | .alterTable rest => draft.alterTable s rest
  | .other => draft

end Draft

namespace PendingKey

/-- The column that a foreign key points to in its parent table. -/
def parentField? (key : PendingKey) (parent : Entity) : Option Field :=
  match key.parentColumn with
  | some column => parent.fieldNamed? column
  | none => parent.primaryKeys[key.keyIndex]?

/-- The parent end and the child end of a foreign key of the table `child`. -/
def ends (key : PendingKey) (schema : Schema) (child : Entity) :
    Except WarningCause (Endpoint × Endpoint) :=
  match child.fieldNamed? key.column with
  | none => .error (.foreignKeyOnUnknownColumn child.name key.column)
  | some childField =>
    match schema.entityNamed? key.parentTable with
    | none => .error (.foreignKeyToUnknownTable child.name childField.name key.parentTable)
    | some parent =>
      match key.parentField? parent with
      | none => .error (.foreignKeyToUnknownColumn child.name childField.name parent.name)
      | some parentField => .ok (⟨parent.id, parentField.id⟩, ⟨child.id, childField.id⟩)

end PendingKey

/-- Relationships found so far and warnings about foreign keys that give none. -/
structure Resolution where
  relationships : List Relationship := []
  warnings : List Warning := []

namespace Resolution

/-- Whether the two ends are joined already. -/
def joins (r : Resolution) (parent child : Endpoint) : Bool :=
  r.relationships.any fun rel => rel.parent == parent && rel.child == child

/-- The relationships with one more between two ends, unless they are joined already. -/
def connect (r : Resolution) (parent child : Endpoint) : Resolution :=
  if r.joins parent child then r
  else
    let id : RelationshipId := ⟨"relationship-" ++ toString r.relationships.length⟩
    { r with relationships := r.relationships ++ [⟨id, parent, child, .standard⟩] }

/-- The relationships after a pending foreign key. -/
def add (schema : Schema) (r : Resolution) (key : PendingKey) : Resolution :=
  match schema.entity? key.child with
  | none => r
  | some child =>
    match key.ends schema child with
    | .error cause => { r with warnings := r.warnings ++ [⟨key.line, cause⟩] }
    | .ok (parentEnd, childEnd) => r.connect parentEnd childEnd

end Resolution

/-- A schema read from a script, and what was left out on the way. -/
structure ImportReport where
  schema : Schema
  skipped : List Skipped
  warnings : List Warning

namespace Draft

/-- The relationships that the pending foreign keys give. -/
def resolution (draft : Draft) : Resolution :=
  draft.pendingKeys.foldl (Resolution.add draft.schema) {}

/-- The outcome of an import after its last statement. -/
def finish (draft : Draft) : Except ImportError ImportReport :=
  match draft.entities, draft.skipped with
  | [], [] => .error .noTables
  | [], first :: _ => .error (.allSkipped first)
  | entities, skipped =>
    let resolution := draft.resolution
    .ok
      { schema := { entities, relationships := resolution.relationships : Schema }.syncForeignKeys
        skipped
        warnings := draft.warnings ++ resolution.warnings }

end Draft

/-- Read statements into a schema. -/
def importStatements (statements : List Statement) : Except ImportError ImportReport :=
  (statements.foldl Draft.add {}).finish

/-- Read a script into a schema. -/
def importScript (sql : String) : Except ImportError ImportReport :=
  match Lexer.lexemes sql with
  | .error e => .error (.lexical e)
  | .ok lexemes => importStatements (Statement.ofLexemes lexemes)

end Ddl

end EntityRelation
