import EntityRelation.Ddl.Constraint
import EntityRelation.Ddl.Finding
import EntityRelation.Ddl.Statement

/-!
# Reading one table

A table under construction is its entity together with the foreign keys and warnings that its
clauses give. Nothing here looks at other tables: foreign keys stay pending until all tables are
known. In a table definition all columns are read before any constraint is applied, and without a
column no constraint is; the actions of an alteration take effect one after the other.
-/

namespace EntityRelation

namespace Ddl

/-- A foreign key whose ends are names. Without a parent column it stands for the column at
`keyIndex` of the parent's primary key. -/
structure PendingKey where
  child : EntityId
  column : String
  parentTable : String
  parentColumn : Option String
  keyIndex : Nat
  line : Nat
  deriving DecidableEq, Repr

/-- A table with what its clauses give besides columns. -/
structure TableDraft where
  entity : Entity
  pendingKeys : List PendingKey := []
  warnings : List Warning := []

namespace TableDraft

/-- The draft with one more warning. -/
def warn (draft : TableDraft) (line : Nat) (cause : WarningCause) : TableDraft :=
  { draft with warnings := draft.warnings ++ [⟨line, cause⟩] }

/-- The draft with one more pending foreign key. -/
def addKey (draft : TableDraft) (key : PendingKey) : TableDraft :=
  { draft with pendingKeys := draft.pendingKeys ++ [key] }

/-- The id of the next field of the table at an index of the schema. -/
def nextFieldId (index : Nat) (entity : Entity) : FieldId :=
  ⟨"field-" ++ toString index ++ "-" ++ toString entity.fields.length⟩

/-- The draft with a column appended. -/
def pushColumn (draft : TableDraft) (index : Nat) (column : Column) : TableDraft :=
  let field := column.toField (nextFieldId index draft.entity)
  { draft with entity := { draft.entity with fields := draft.entity.fields ++ [field] } }

/-- The draft after a column definition of the table at an index of the schema. -/
def addColumn (index line : Nat) (draft : TableDraft) (clause : Clause) : TableDraft :=
  match Column.ofClause clause with
  | .error fault => draft.warn line (.columnSkipped draft.entity.name fault)
  | .ok column =>
    if (draft.entity.fieldNamed? column.name).isSome then
      draft.warn line (.duplicateColumn draft.entity.name column.name)
    else
      let draft :=
        match column.reference with
        | none => draft
        | some target =>
          draft.addKey ⟨draft.entity.id, column.name, target.table, target.column, 0, line⟩
      draft.pushColumn index column

/-- The draft with the first field of a name changed. -/
def updateNamed (draft : TableDraft) (name : String) (f : Field → Field) : TableDraft :=
  { draft with
    entity :=
      { draft.entity with
        fields := updateFirst (fun field => Text.sameName field.name name) f draft.entity.fields } }

/-- The draft with one column of its primary key marked. -/
def markPrimaryKey (line : Nat) (draft : TableDraft) (name : String) : TableDraft :=
  if (draft.entity.fieldNamed? name).isSome then
    draft.updateNamed name fun field => { field with isPrimaryKey := true }
  else
    draft.warn line (.unknownKeyColumn draft.entity.name name)

/-- The pending foreign keys of a clause, one for each column. -/
def keysOf (child : EntityId) (line : Nat) (table : String) (columns referenced : List String) :
    List PendingKey :=
  columns.mapIdx fun i column => ⟨child, column, table, referenced[i]?, i, line⟩

/-- The draft after a constraint. A unique constraint on several columns says nothing about any of
them. -/
def applyConstraint (line : Nat) (draft : TableDraft) : TableConstraint → TableDraft
  | .primaryKey columns => columns.foldl (markPrimaryKey line) draft
  | .unique [name] => draft.updateNamed name fun field => { field with isUnique := true }
  | .unique _ => draft
  | .foreignKey columns (some table) referenced =>
    (keysOf draft.entity.id line table columns referenced).foldl addKey draft
  | .foreignKey _ none _ => draft.warn line (.foreignKeyWithoutTable draft.entity.name)
  | .ignored => draft

/-- The draft after the column definitions among the clauses of a table body. -/
def addColumns (index line : Nat) (draft : TableDraft) (clauses : List Clause) : TableDraft :=
  (clauses.filter fun clause => (TableConstraint.ofClause? clause).isNone).foldl
    (addColumn index line) draft

/-- The draft after the constraints among the clauses of a table body. -/
def applyConstraints (line : Nat) (draft : TableDraft) (clauses : List Clause) : TableDraft :=
  (clauses.filterMap TableConstraint.ofClause?).foldl (applyConstraint line) draft

/-- The draft after one action of an alteration. Only additions count. -/
def addAction (index line : Nat) (draft : TableDraft) (action : Clause) : TableDraft :=
  match action.after? [.add] with
  | none => draft
  | some clause =>
    match TableConstraint.ofClause? clause with
    | some constraint => applyConstraint line draft constraint
    | none =>
      addColumn index line draft
        ((clause.skip [.column]).skip [.ifWord, .notWord, .existsWord])

end TableDraft

/-- The name and the body of a table definition, after the words that announce it. -/
def tableHeader (c : Clause) : Except TableFault (String × Clause) :=
  match (c.skip [.ifWord, .notWord, .existsWord]).tableName? with
  | none => .error .missingName
  | some (name, rest) =>
    match rest with
    | [] => .error (.noColumnList name)
    | l :: rest =>
      if l.token = .leftParen then
        match Clause.closeGroup? 0 rest with
        | none => .error (.unbalanced name)
        | some ([], _) => .error (.noColumns name)
        | some (body, _) => .ok (name, body)
      else
        .error (.noColumnList name)

end Ddl

end EntityRelation
