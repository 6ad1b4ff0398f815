import EntityRelation.Edit.IdSupply
import EntityRelation.Edit.Schema

/-!
# Operations

An operation is an edit as a value: what is asked for, with all ids that it mentions. Performing it
on a schema takes new ids from a supply and gives the changed schema, the supply that is left, and
what the operation was about. A refused operation takes no id.

A gesture is an operation of the diagram: drag a node, draw an edge, or delete an edge.
-/

namespace EntityRelation

/-- An edit of a schema. -/
inductive Operation where
  | addEntity
  | addEntityNamed (name : String)
  | deleteEntity (id : EntityId)
  | renameEntity (id : EntityId) (name : String)
  | moveEntity (id : EntityId) (position : Position)
  | addField (entity : EntityId) (field : Field)
  | replaceField (entity : EntityId) (id : FieldId) (field : Field)
  | deleteField (entity : EntityId) (id : FieldId)
  | connect (connection : Connection)
  | deleteRelationship (id : RelationshipId)
  | setCardinality (id : RelationshipId) (cardinality : Cardinality)
  deriving Repr

/-- What an operation was about: what it created, what it removed as it was stored, or neither. -/
inductive Outcome where
  | createdEntity (id : EntityId)
  | createdField (id : FieldId)
  | createdRelationship (id : RelationshipId)
  | removedEntity (entity : Entity)
  | removedField (field : Field)
  | removedRelationship (relationship : Relationship)
  | changed
  deriving Repr

/-- A schema after an operation. -/
structure Performed where
  outcome : Outcome
  schema : Schema
  ids : IdSupply

namespace Operation

/-- Carry out an operation. -/
def perform (s : Schema) (ids : IdSupply) : Operation → Except Rejection Performed
  | addEntity =>
    .ok ⟨.createdEntity ids.entity, s.addEntity ids.entity ids.field, ids.afterEntity⟩
  | addEntityNamed name =>
    (s.addEntityNamed name ids.entity ids.field).map fun s =>
      ⟨.createdEntity ids.entity, s, ids.afterEntity⟩
  | deleteEntity id => (s.deleteEntity id).map fun (e, s) => ⟨.removedEntity e, s, ids⟩
  | renameEntity id name => (s.renameEntity id name).map fun s => ⟨.changed, s, ids⟩
  | moveEntity id position => (s.moveEntity id position).map fun s => ⟨.changed, s, ids⟩
  | addField entity field =>
    (s.addField entity field ids.field).map fun s =>
      ⟨.createdField ids.field, s, ids.afterField⟩
  | replaceField entity id field =>
    (s.replaceField entity id field).map fun s => ⟨.changed, s, ids⟩
  | deleteField entity id => (s.deleteField entity id).map fun (f, s) => ⟨.removedField f, s, ids⟩
  | connect connection =>
    (s.connect connection ids.relationship).map fun s =>
      ⟨.createdRelationship ids.relationship, s, ids.afterRelationship⟩
  | deleteRelationship id =>
    (s.deleteRelationship id).map fun (r, s) => ⟨.removedRelationship r, s, ids⟩
  | setCardinality id cardinality =>
    (s.setCardinality id cardinality).map fun s => ⟨.changed, s, ids⟩

end Operation

/-- An edit made on the diagram. -/
inductive Gesture where
  | moveNode (node : EntityId) (position : Position)
  | connect (connection : Connection)
  | deleteEdge (edge : RelationshipId)
  deriving Repr

/-- The operation that a gesture asks for. -/
def Gesture.operation : Gesture → Operation
  | moveNode node position => .moveEntity node position
  | connect connection => .connect connection
  | deleteEdge edge => .deleteRelationship edge

end EntityRelation
