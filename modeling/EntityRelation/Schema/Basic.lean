import EntityRelation.FirstMatch
import EntityRelation.Text.Blank
import EntityRelation.Text.Case

/-!
# Schemas

A schema is a list of entities (tables) with their fields (columns), and a list of relationships.
A relationship runs from a column of the referenced table, its parent end, to a column of the
referencing table, its child end. Everything is named by ids, and an id stands for the first thing
that bears it: `Schema.entity?`, `Entity.field?` and `Schema.relationship?` read a list from the
front. Look-up by name ignores ASCII case.

Relationships are the one source of foreign keys. The members `isForeignKey` and `references` of a
field are a view of them that `Schema.syncForeignKeys` recomputes.
-/

namespace EntityRelation

/-- The id of an entity. -/
structure EntityId where
  text : String
  deriving DecidableEq, Repr, Inhabited

/-- The id of a field among the fields of its entity. -/
structure FieldId where
  text : String
  deriving DecidableEq, Repr, Inhabited

/-- The id of a relationship. -/
structure RelationshipId where
  text : String
  deriving DecidableEq, Repr, Inhabited

/-- A place on the diagram. -/
structure Position where
  x : Float
  y : Float
  deriving Repr, Inhabited

/-- The place of a table that nobody has moved yet. -/
def Position.origin : Position := ⟨0.0, 0.0⟩

/-- A column named by its table. -/
structure ColumnName where
  table : String
  field : String
  deriving DecidableEq, Repr, Inhabited

/-- A column. -/
structure Field where
  id : FieldId
  name : String
  dataType : String
  isPrimaryKey : Bool := false
  isForeignKey : Bool := false
  isNotNull : Bool := false
  isUnique : Bool := false
  defaultValue : Option String := none
  references : Option ColumnName := none
  deriving DecidableEq, Repr, Inhabited

/-- A table with its columns in the order of the script. -/
structure Entity where
  id : EntityId
  name : String
  fields : List Field
  position : Position
  deriving Repr, Inhabited

/-- How many rows on each side a relationship joins. -/
inductive Cardinality where
  | oneToOne
  | oneToMany
  | manyToMany
  deriving DecidableEq, Repr, Inhabited

/-- One end of a relationship: a field of an entity. -/
structure Endpoint where
  entity : EntityId
  field : FieldId
  deriving DecidableEq, Repr, Inhabited

/-- A foreign key from the `child` column to the `parent` column. -/
structure Relationship where
  id : RelationshipId
  parent : Endpoint
  child : Endpoint
  cardinality : Cardinality
  deriving DecidableEq, Repr, Inhabited

/-- Entities and the relationships between them. -/
structure Schema where
  entities : List Entity := []
  relationships : List Relationship := []
  deriving Repr, Inhabited

/-- A name to show: the id stands in for a blank name. -/
def labelOf (name id : String) : String :=
  if Text.isBlankText name then id else name

namespace Field

/-- What messages call the column. -/
def label (f : Field) : String :=
  labelOf f.name f.id.text

/-- Whether a relationship that names no column may end here. -/
def isKey (f : Field) : Bool :=
  f.isPrimaryKey || f.isForeignKey

end Field

namespace Entity

/-- What messages call the table. -/
def label (e : Entity) : String :=
  labelOf e.name e.id.text

/-- The field that an id stands for. -/
def field? (e : Entity) (id : FieldId) : Option Field :=
  e.fields.find? (·.id == id)

/-- The first field of a name. -/
def fieldNamed? (e : Entity) (name : String) : Option Field :=
  e.fields.find? fun f => Text.sameName f.name name

/-- The columns of the primary key, in column order. -/
def primaryKeys (e : Entity) : List Field :=
  e.fields.filter (·.isPrimaryKey)

/-- The field where a relationship ends that names none. -/
def firstKeyField? (e : Entity) : Option Field :=
  e.fields.find? (·.isKey)

/-- The entity with the field of an id changed. -/
def updateField (e : Entity) (id : FieldId) (f : Field → Field) : Entity :=
  { e with fields := updateFirst (·.id == id) f e.fields }

end Entity

namespace Relationship

/-- Whether one of the ends lies in the entity. -/
def touches (r : Relationship) (id : EntityId) : Bool :=
  r.parent.entity == id || r.child.entity == id

/-- Whether one of the ends is the field of the entity. -/
def binds (r : Relationship) (entity : EntityId) (field : FieldId) : Bool :=
  r.parent == ⟨entity, field⟩ || r.child == ⟨entity, field⟩

end Relationship

/-- A relationship with both ends found. -/
structure Link where
  parent : Entity
  parentField : Field
  child : Entity
  childField : Field

namespace Schema

/-- Whether there is nothing in the schema. -/
def isEmpty (s : Schema) : Bool :=
  s.entities.isEmpty && s.relationships.isEmpty

/-- The entity that an id stands for. -/
def entity? (s : Schema) (id : EntityId) : Option Entity :=
  s.entities.find? (·.id == id)

/-- The first entity of a name. -/
def entityNamed? (s : Schema) (name : String) : Option Entity :=
  s.entities.find? fun e => Text.sameName e.name name

/-- The relationship that an id stands for. -/
def relationship? (s : Schema) (id : RelationshipId) : Option Relationship :=
  s.relationships.find? (·.id == id)

/-- The relationships whose child end lies in the entity. -/
def incoming (s : Schema) (id : EntityId) : List Relationship :=
  s.relationships.filter (·.child.entity == id)

/-- The entity and field of an end. -/
def endpoint? (s : Schema) (e : Endpoint) : Option (Entity × Field) := do
  let entity ← s.entity? e.entity
  let field ← entity.field? e.field
  return (entity, field)

/-- Both ends of a relationship; none when one of them dangles. -/
def resolve? (s : Schema) (r : Relationship) : Option Link := do
  let (parent, parentField) ← s.endpoint? r.parent
  let (child, childField) ← s.endpoint? r.child
  return ⟨parent, parentField, child, childField⟩

/-- The schema with the entity of an id changed. -/
def updateEntity (s : Schema) (id : EntityId) (f : Entity → Entity) : Schema :=
  { s with entities := updateFirst (·.id == id) f s.entities }

/-- The schema with every field changed. -/
def mapFields (s : Schema) (f : Field → Field) : Schema :=
  { s with entities := s.entities.map fun e => { e with fields := e.fields.map f } }

end Schema

namespace Cardinality

/-- The mark of a cardinality, as in `1:N`. -/
def mark : Cardinality → String
  | oneToOne => "1:1"
  | oneToMany => "1:N"
  | manyToMany => "N:M"

/-- The cardinality of a relationship that states none. -/
def standard : Cardinality := oneToMany

/-- Read a mark or one of its spellings in words, in any ASCII case. The error is the text as it
was compared. -/
def parse (s : String) : Except String Cardinality :=
  match Text.asciiUpper (Text.trimmed s) with
  | "1:1" | "ONE_TO_ONE" | "ONE-TO-ONE" => .ok oneToOne
  | "1:N" | "ONE_TO_MANY" | "ONE-TO-MANY" => .ok oneToMany
  | "N:M" | "M:N" | "MANY_TO_MANY" | "MANY-TO-MANY" => .ok manyToMany
  | other => .error other

end Cardinality

end EntityRelation
