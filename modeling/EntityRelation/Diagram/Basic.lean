import EntityRelation.Schema.ForeignKeys

/-!
# Diagrams

A diagram shows a schema as nodes and edges. Nodes bear the ids of entities and edges the ids of
relationships. A handle names the column where an edge is attached, with a suffix for the side of
the column. `Diagram.ofSchema` and `Diagram.toSchema` convert between the two; coming back, the
foreign key view is recomputed, so a schema whose view is in step comes back as it was.
-/

namespace EntityRelation

/-- How an edge is drawn. -/
inductive EdgeStyle where
  | solid
  | thick
  | dashed
  deriving DecidableEq, Repr, Inhabited

namespace EdgeStyle

/-- The style for a cardinality. -/
def ofCardinality : Cardinality → EdgeStyle
  | .oneToOne => solid
  | .oneToMany => thick
  | .manyToMany => dashed

/-- The width of the line. -/
def strokeWidth : EdgeStyle → Float
  | solid => 1.0
  | thick | dashed => 2.0

/-- The pattern of dashes, if the line has one. -/
def dashArray? : EdgeStyle → Option String
  | dashed => some "5,5"
  | _ => none

end EdgeStyle

namespace Diagram

/-- An entity on the diagram. -/
structure Node where
  id : EntityId
  position : Position
  name : String
  fields : List Field
  deriving Repr, Inhabited

/-- A relationship on the diagram. -/
structure Edge where
  id : RelationshipId
  source : EntityId
  target : EntityId
  sourceHandle : String
  targetHandle : String
  label : Cardinality
  style : EdgeStyle
  deriving DecidableEq, Repr, Inhabited

/-- The end of a handle on the parent side. -/
def sourceSuffix : String := "-source"

/-- The end of a handle on the child side. -/
def targetSuffix : String := "-target"

/-- A text without a suffix, if it ends in it. -/
def withoutSuffix (ending text : String) : String :=
  if ending.toList.isSuffixOf text.toList then
    String.ofList (text.toList.take (text.length - ending.length))
  else
    text

namespace Edge

/-- The field where the edge starts. -/
def sourceField (e : Edge) : FieldId :=
  ⟨withoutSuffix sourceSuffix e.sourceHandle⟩

/-- The field where the edge ends. -/
def targetField (e : Edge) : FieldId :=
  ⟨withoutSuffix targetSuffix e.targetHandle⟩

/-- The edge of a relationship. -/
def ofRelationship (r : Relationship) : Edge where
  id := r.id
  source := r.parent.entity
  target := r.child.entity
  sourceHandle := r.parent.field.text ++ sourceSuffix
  targetHandle := r.child.field.text ++ targetSuffix
  label := r.cardinality
  style := EdgeStyle.ofCardinality r.cardinality

/-- The relationship of an edge. -/
def toRelationship (e : Edge) : Relationship where
  id := e.id
  parent := ⟨e.source, e.sourceField⟩
  child := ⟨e.target, e.targetField⟩
  cardinality := e.label

end Edge

namespace Node

/-- The node of an entity. -/
def ofEntity (e : Entity) : Node :=
  ⟨e.id, e.position, e.name, e.fields⟩

/-- The entity of a node. -/
def toEntity (n : Node) : Entity :=
  ⟨n.id, n.name, n.fields, n.position⟩

@[simp] theorem toEntity_ofEntity (e : Entity) : (ofEntity e).toEntity = e := rfl

@[simp] theorem ofEntity_toEntity (n : Node) : ofEntity n.toEntity = n := rfl

end Node

end Diagram

/-- A diagram. -/
structure Diagram where
  nodes : List Diagram.Node := []
  edges : List Diagram.Edge := []
  deriving Repr, Inhabited

namespace Diagram

/-- The diagram of a schema. -/
def ofSchema (s : Schema) : Diagram where
  nodes := s.entities.map Node.ofEntity
  edges := s.relationships.map Edge.ofRelationship

/-- The schema of a diagram as its nodes and edges state it. -/
def rawSchema (d : Diagram) : Schema where
  entities := d.nodes.map Node.toEntity
  relationships := d.edges.map Edge.toRelationship

/-- The schema of a diagram, with the foreign key view that its edges give. -/
def toSchema (d : Diagram) : Schema :=
  d.rawSchema.syncForeignKeys

end Diagram

end EntityRelation
