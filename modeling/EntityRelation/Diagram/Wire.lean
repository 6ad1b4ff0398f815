import EntityRelation.Diagram.Basic
import EntityRelation.Edit.Operation
import EntityRelation.Schema.Wire

/-!
# Diagrams and gestures as JSON

A node carries the tag `entityNode`, and a gesture the tag `op_type`. The members of a connection
that are left open may be absent or null.
-/

namespace EntityRelation

open Decoder (slot)

namespace EdgeStyle

def choices : List (String × EdgeStyle) :=
  [("solid", solid), ("thick", thick), ("dashed", dashed)]

def toJson : EdgeStyle → Json
  | solid => .text "solid"
  | thick => .text "thick"
  | dashed => .text "dashed"

def ofJson : Decoder EdgeStyle :=
  Decoder.choice choices

end EdgeStyle

namespace Diagram

namespace Node

/-- The name and the columns of a node. -/
structure Content where
  name : String := ""
  fields : List Field := []

def Content.slots : List (Decoder.Slot Content) :=
  [slot "name" .required Decoder.text fun name c => { c with name },
    slot "fields" .required (Decoder.list Field.ofJson) fun fields c => { c with fields }]

def Content.ofJson : Decoder Content :=
  Decoder.record "struct EntityNodeData" {} Content.slots

def toJson (n : Node) : Json :=
  .object
    [("type", .text "entityNode"), ("id", n.id.toJson), ("position", n.position.toJson),
      ("data", .object [("name", .text n.name), ("fields", .ofList Field.toJson n.fields)])]

/-- A node of which nothing is known yet. -/
def blank : Node :=
  ⟨⟨""⟩, .origin, "", []⟩

def slots : List (Decoder.Slot Node) :=
  [slot "id" .required EntityId.ofJson fun id n => { n with id },
    slot "position" .required Position.ofJson fun position n => { n with position },
    slot "data" .required Content.ofJson fun c n => { n with name := c.name, fields := c.fields }]

def ofJson : Decoder Node :=
  Decoder.tagged "DiagramNode" "type"
    [("entityNode", Decoder.record "struct variant DiagramNode::Entity" blank slots)]

end Node

namespace Edge

def toJson (e : Edge) : Json :=
  .object
    [("id", e.id.toJson), ("source", e.source.toJson), ("target", e.target.toJson),
      ("sourceHandle", .text e.sourceHandle), ("targetHandle", .text e.targetHandle),
      ("label", e.label.toJson), ("style", e.style.toJson)]

/-- An edge of which nothing is known yet. -/
def blank : Edge :=
  ⟨⟨""⟩, ⟨""⟩, ⟨""⟩, "", "", .standard, .solid⟩

def slots : List (Decoder.Slot Edge) :=
  [slot "id" .required RelationshipId.ofJson fun id e => { e with id },
    slot "source" .required EntityId.ofJson fun source e => { e with source },
    slot "target" .required EntityId.ofJson fun target e => { e with target },
    slot "sourceHandle" .required Decoder.text fun sourceHandle e => { e with sourceHandle },
    slot "targetHandle" .required Decoder.text fun targetHandle e => { e with targetHandle },
    slot "label" .required Cardinality.ofJson fun label e => { e with label },
    slot "style" .required EdgeStyle.ofJson fun style e => { e with style }]

def ofJson : Decoder Edge :=
  Decoder.record "struct DiagramEdge" blank slots

end Edge

def toJson (d : Diagram) : Json :=
  .object [("nodes", .ofList Node.toJson d.nodes), ("edges", .ofList Edge.toJson d.edges)]

def slots : List (Decoder.Slot Diagram) :=
  [slot "nodes" .required (Decoder.list Node.ofJson) fun nodes d => { d with nodes },
    slot "edges" .required (Decoder.list Edge.ofJson) fun edges d => { d with edges }]

def ofJson : Decoder Diagram :=
  Decoder.record "struct DiagramGraph" {} slots

end Diagram

namespace Connection

def toJson (c : Connection) : Json :=
  .object
    [("source", c.parent.toJson), ("target", c.child.toJson),
      ("sourceField", .ofOption FieldId.toJson c.parentField),
      ("targetField", .ofOption FieldId.toJson c.childField),
      ("kind", .ofOption Cardinality.toJson c.cardinality)]

/-- The members of a connection, where the cardinality is read by the given decoder. -/
def slots (cardinality : Decoder Cardinality) : List (Decoder.Slot Connection) :=
  [slot "source" .required EntityId.ofJson fun parent c => { c with parent },
    slot "target" .required EntityId.ofJson fun child c => { c with child },
    slot "sourceField" .defaulted (Decoder.option FieldId.ofJson)
      fun parentField c => { c with parentField },
    slot "targetField" .defaulted (Decoder.option FieldId.ofJson)
      fun childField c => { c with childField },
    slot "kind" .defaulted (Decoder.option cardinality)
      fun cardinality c => { c with cardinality }]

/-- A connection of which nothing is known yet. -/
def blank : Connection :=
  ⟨⟨""⟩, ⟨""⟩, none, none, none⟩

def ofJson : Decoder Connection :=
  Decoder.record "struct Connection" blank (slots Cardinality.ofJson)

/-- Read a connection inside a tagged value. -/
def ofTagged : Decoder Connection :=
  Decoder.record "struct Connection" blank (slots Cardinality.ofTagged)

end Connection

namespace Gesture

/-- What is known of a node that is moved. -/
structure Move where
  node : EntityId := ⟨""⟩
  position : Position := .origin

def Move.slots : List (Decoder.Slot Move) :=
  [slot "node_id" .required EntityId.ofJson fun node m => { m with node },
    slot "position" .required Position.ofJson fun position m => { m with position }]

def deletionSlots : List (Decoder.Slot RelationshipId) :=
  [slot "edge_id" .required RelationshipId.ofJson fun edge _ => edge]

/-- The members of an object. -/
def members : Json → List (String × Json)
  | .object members => members
  | _ => []

def toJson : Gesture → Json
  | moveNode node position =>
    .object
      [("op_type", .text "MoveNode"), ("node_id", node.toJson), ("position", position.toJson)]
  | connect connection => .object (("op_type", .text "Connect") :: members connection.toJson)
  | deleteEdge edge => .object [("op_type", .text "DeleteEdge"), ("edge_id", edge.toJson)]

def ofMove : Decoder Gesture :=
  fun j => (Decoder.record "struct variant GraphEdit::MoveNode" {} Move.slots j).map
    fun m => moveNode m.node m.position

def ofConnection : Decoder Gesture :=
  fun j => (Connection.ofTagged j).map connect

def ofDeletion : Decoder Gesture :=
  fun j => (Decoder.record "struct variant GraphEdit::DeleteEdge" ⟨""⟩ deletionSlots j).map
    deleteEdge

def ofJson : Decoder Gesture :=
  Decoder.tagged "GraphEdit" "op_type"
    [("MoveNode", ofMove), ("Connect", ofConnection), ("DeleteEdge", ofDeletion)]

end Gesture

end EntityRelation
