import EntityRelation.Edit.Rejection
import EntityRelation.Edit.Slot
import EntityRelation.Dialect.Serial
import EntityRelation.Schema.ForeignKeys

/-!
# Editing a schema

Eleven ways to change a schema. Each looks at everything it needs first and then either refuses or
returns the changed schema. A change that can move a foreign key or rename its target recomputes
the foreign key view. What is new in a schema gets its id from the caller.

Names are trimmed, must not be blank, and must not be taken by a sibling under ASCII case. Nothing
else is asked of a name here.
-/

namespace EntityRelation

/-- A relationship that is asked for. An end without a field is at the first key field of its
entity. -/
structure Connection where
  parent : EntityId
  child : EntityId
  parentField : Option FieldId := none
  childField : Option FieldId := none
  cardinality : Option Cardinality := none
  deriving DecidableEq, Repr, Inhabited

/-- A name as it is stored. -/
def checkedName (name : String) : Except Rejection String :=
  let name := Text.trimmed name
  if name.isEmpty then .error .emptyName else .ok name

namespace NewEntity

/-- The name of a new table. -/
def baseName : String := "new_entity"

/-- The `k`-th name that is tried for a new table: the base name, then the base name numbered from
two on. -/
def candidate (k : Nat) : String :=
  if k = 0 then baseName else baseName ++ "_" ++ toString (k + 1)

end NewEntity

namespace Schema

/-- Whether a name is taken by an entity other than `except`. -/
def nameTaken (s : Schema) (name : String) (except : Option EntityId) : Bool :=
  s.entities.any fun e => some e.id != except && Text.sameName e.name name

/-- The first candidate for a name that is not taken. There are more candidates than tables. -/
def freeName (s : Schema) : String :=
  let candidates := (List.range (s.entities.length + 1)).map NewEntity.candidate
  (candidates.find? fun name => !s.nameTaken name none).getD NewEntity.baseName

/-- A new entity of a name with an automatically numbered key, at a free place. -/
def newEntity (s : Schema) (name : String) (id : EntityId) (keyId : FieldId) : Entity where
  id
  name
  fields := [{ id := keyId, name := "id", dataType := Serial.spelling .serial, isPrimaryKey := true }]
  position := s.freePosition

/-- The schema with an entity appended. -/
def pushEntity (s : Schema) (e : Entity) : Schema :=
  { s with entities := s.entities ++ [e] }

/-- Add an entity under a free name. -/
def addEntity (s : Schema) (id : EntityId) (keyId : FieldId) : Schema :=
  s.pushEntity (s.newEntity s.freeName id keyId)

/-- Add an entity under a given name. -/
def addEntityNamed (s : Schema) (name : String) (id : EntityId) (keyId : FieldId) :
    Except Rejection Schema := do
  let name ← checkedName name
  if s.nameTaken name none then
    throw (.duplicateEntityName name)
  return s.pushEntity (s.newEntity name id keyId)

/-- The entity of an id, or a refusal. -/
def entityOrReject (s : Schema) (id : EntityId) : Except Rejection Entity :=
  match s.entity? id with
  | some e => .ok e
  | none => .error (.unknownEntity id)

/-- Delete an entity and every relationship that touches it. -/
def deleteEntity (s : Schema) (id : EntityId) : Except Rejection (Entity × Schema) := do
  let e ← s.entityOrReject id
  let rest : Schema :=
    { entities := eraseFirst (·.id == id) s.entities
      relationships := s.relationships.filter (!·.touches id) }
  return (e, rest.syncForeignKeys)

/-- Rename an entity. -/
def renameEntity (s : Schema) (id : EntityId) (name : String) : Except Rejection Schema := do
  let name ← checkedName name
  let _ ← s.entityOrReject id
  if s.nameTaken name (some id) then
    throw (.duplicateEntityName name)
  return (s.updateEntity id fun e => { e with name }).syncForeignKeys

/-- Move an entity to a place. -/
def moveEntity (s : Schema) (id : EntityId) (position : Position) : Except Rejection Schema := do
  let _ ← s.entityOrReject id
  return s.updateEntity id fun e => { e with position }

end Schema

/-- Whether a name is taken by a field other than `except`. -/
def Entity.nameTaken (e : Entity) (name : String) (except : Option FieldId) : Bool :=
  e.fields.any fun f => some f.id != except && Text.sameName f.name name

namespace Schema

/-- Append a field to an entity under a new id. -/
def addField (s : Schema) (entity : EntityId) (field : Field) (id : FieldId) :
    Except Rejection Schema := do
  let name ← checkedName field.name
  let e ← s.entityOrReject entity
  if e.nameTaken name none then
    throw (.duplicateFieldName e.name name)
  let field := { field with id, name }
  return (s.updateEntity entity fun e => { e with fields := e.fields ++ [field] }).syncForeignKeys

/-- Replace a field of an entity, which keeps its id and its place. -/
def replaceField (s : Schema) (entity : EntityId) (id : FieldId) (field : Field) :
    Except Rejection Schema := do
  let name ← checkedName field.name
  let e ← s.entityOrReject entity
  if (e.field? id).isNone then
    throw (.unknownField entity id)
  if e.nameTaken name (some id) then
    throw (.duplicateFieldName e.name name)
  let field := { field with id, name }
  return (s.updateEntity entity fun e => e.updateField id fun _ => field).syncForeignKeys

/-- Delete a field and every relationship that binds it. An entity keeps its last field. -/
def deleteField (s : Schema) (entity : EntityId) (id : FieldId) :
    Except Rejection (Field × Schema) := do
  let e ← s.entityOrReject entity
  match e.field? id with
  | none => throw (.unknownField entity id)
  | some field =>
    if e.fields.length = 1 then
      throw (.lastField e.label)
    let shorter :=
      s.updateEntity entity fun e => { e with fields := eraseFirst (·.id == id) e.fields }
    let rest := { shorter with relationships := s.relationships.filter (!·.binds entity id) }
    return (field, rest.syncForeignKeys)

/-- The end of a relationship that is asked for. -/
def connectionEnd (s : Schema) (entity : EntityId) (field : Option FieldId) :
    Except Rejection Endpoint := do
  let e ← s.entityOrReject entity
  match field with
  | some id =>
    if (e.field? id).isSome then return ⟨entity, id⟩ else throw (.unknownField entity id)
  | none =>
    match e.firstKeyField? with
    | some f => return ⟨entity, f.id⟩
    | none => throw (.noKeyField e.label)

/-- Whether a relationship joins the two ends. -/
def joins (s : Schema) (parent child : Endpoint) : Bool :=
  s.relationships.any fun r => r.parent == parent && r.child == child

/-- Add a relationship. -/
def connect (s : Schema) (c : Connection) (id : RelationshipId) : Except Rejection Schema := do
  let parent ← s.connectionEnd c.parent c.parentField
  let child ← s.connectionEnd c.child c.childField
  if s.joins parent child then
    throw .duplicateRelationship
  let r : Relationship := ⟨id, parent, child, c.cardinality.getD .standard⟩
  return { s with relationships := s.relationships ++ [r] : Schema }.syncForeignKeys

/-- Delete a relationship. -/
def deleteRelationship (s : Schema) (id : RelationshipId) :
    Except Rejection (Relationship × Schema) :=
  match s.relationship? id with
  | none => .error (.unknownRelationship id)
  | some r =>
    let rest := { s with relationships := eraseFirst (·.id == id) s.relationships }
    .ok (r, rest.syncForeignKeys)

/-- Change the cardinality of a relationship. -/
def setCardinality (s : Schema) (id : RelationshipId) (cardinality : Cardinality) :
    Except Rejection Schema :=
  match s.relationship? id with
  | none => .error (.unknownRelationship id)
  | some _ =>
    .ok { s with relationships := updateFirst (·.id == id) (fun r => { r with cardinality }) s.relationships }

end Schema

end EntityRelation
