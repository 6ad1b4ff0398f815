import EntityRelation.Json.Decode
import EntityRelation.Schema.Basic

/-!
# Schemas as JSON

The stored form of a schema. Flags are always written and may be absent when read; a default value
and a reference are written only when there is one; a position may be absent and is the origin
then. `ofJson` reads what `toJson` writes.
-/

namespace EntityRelation

open Decoder (slot)

namespace EntityId

def toJson (id : EntityId) : Json :=
  .text id.text

def ofJson : Decoder EntityId :=
  fun j => (Decoder.text j).map EntityId.mk

end EntityId

namespace FieldId

def toJson (id : FieldId) : Json :=
  .text id.text

def ofJson : Decoder FieldId :=
  fun j => (Decoder.text j).map FieldId.mk

end FieldId

namespace RelationshipId

def toJson (id : RelationshipId) : Json :=
  .text id.text

def ofJson : Decoder RelationshipId :=
  fun j => (Decoder.text j).map RelationshipId.mk

end RelationshipId

namespace Position

def toJson (p : Position) : Json :=
  .object [("x", .ofFloat p.x), ("y", .ofFloat p.y)]

def slots : List (Decoder.Slot Position) :=
  [slot "x" .required Decoder.float fun x p => { p with x },
    slot "y" .required Decoder.float fun y p => { p with y }]

def ofJson : Decoder Position :=
  Decoder.record "struct Position" .origin slots

end Position

namespace ColumnName

def toJson (c : ColumnName) : Json :=
  .object [("table", .text c.table), ("field", .text c.field)]

def slots : List (Decoder.Slot ColumnName) :=
  [slot "table" .required Decoder.text fun table c => { c with table },
    slot "field" .required Decoder.text fun field c => { c with field }]

def ofJson : Decoder ColumnName :=
  Decoder.record "struct FieldReference" ⟨"", ""⟩ slots

end ColumnName

namespace Field

/-- The members that are written only when there is something to write. -/
def optionalMembers (f : Field) : List (String × Json) :=
  (f.defaultValue.map fun value => ("defaultValue", Json.text value)).toList ++
    (f.references.map fun target => ("references", target.toJson)).toList

def toJson (f : Field) : Json :=
  .object
    ([("id", f.id.toJson), ("name", .text f.name), ("type", .text f.dataType),
      ("isPrimaryKey", .bool f.isPrimaryKey), ("isForeignKey", .bool f.isForeignKey),
      ("isNotNull", .bool f.isNotNull), ("isUnique", .bool f.isUnique)] ++ f.optionalMembers)

/-- A field of which nothing is known yet. -/
def blank : Field where
  id := ⟨""⟩
  name := ""
  dataType := ""

def slots : List (Decoder.Slot Field) :=
  [slot "id" .required FieldId.ofJson fun id f => { f with id },
    slot "name" .required Decoder.text fun name f => { f with name },
    slot "type" .required Decoder.text fun dataType f => { f with dataType },
    slot "isPrimaryKey" .defaulted Decoder.bool fun isPrimaryKey f => { f with isPrimaryKey },
    slot "isForeignKey" .defaulted Decoder.bool fun isForeignKey f => { f with isForeignKey },
    slot "isNotNull" .defaulted Decoder.bool fun isNotNull f => { f with isNotNull },
    slot "isUnique" .defaulted Decoder.bool fun isUnique f => { f with isUnique },
    slot "defaultValue" .defaulted (Decoder.option Decoder.text)
      fun defaultValue f => { f with defaultValue },
    slot "references" .defaulted (Decoder.option ColumnName.ofJson)
      fun references f => { f with references }]

def ofJson : Decoder Field :=
  Decoder.record "struct Field" blank slots

end Field

namespace Entity

def toJson (e : Entity) : Json :=
  .object
    [("id", e.id.toJson), ("name", .text e.name), ("fields", .ofList Field.toJson e.fields),
      ("position", e.position.toJson)]

/-- An entity of which nothing is known yet. -/
def blank : Entity :=
  ⟨⟨""⟩, "", [], .origin⟩

def slots : List (Decoder.Slot Entity) :=
  [slot "id" .required EntityId.ofJson fun id e => { e with id },
    slot "name" .required Decoder.text fun name e => { e with name },
    slot "fields" .required (Decoder.list Field.ofJson) fun fields e => { e with fields },
    slot "position" .defaulted Position.ofJson fun position e => { e with position }]

def ofJson : Decoder Entity :=
  Decoder.record "struct Entity" blank slots

end Entity

namespace Cardinality

def choices : List (String × Cardinality) :=
  [("1:1", oneToOne), ("1:N", oneToMany), ("N:M", manyToMany)]

def toJson (c : Cardinality) : Json :=
  .text c.mark

def ofJson : Decoder Cardinality :=
  Decoder.choice choices

/-- Read a cardinality inside a tagged value. -/
def ofTagged : Decoder Cardinality :=
  Decoder.choiceInTagged choices

end Cardinality

namespace Relationship

def toJson (r : Relationship) : Json :=
  .object
    [("id", r.id.toJson), ("sourceEntityId", r.parent.entity.toJson),
      ("sourceFieldId", r.parent.field.toJson), ("targetEntityId", r.child.entity.toJson),
      ("targetFieldId", r.child.field.toJson), ("type", r.cardinality.toJson)]

/-- A relationship of which nothing is known yet. -/
def blank : Relationship :=
  ⟨⟨""⟩, ⟨⟨""⟩, ⟨""⟩⟩, ⟨⟨""⟩, ⟨""⟩⟩, .standard⟩

def slots : List (Decoder.Slot Relationship) :=
  [slot "id" .required RelationshipId.ofJson fun id r => { r with id },
    slot "sourceEntityId" .required EntityId.ofJson
      fun entity r => { r with parent := { r.parent with entity } },
    slot "sourceFieldId" .required FieldId.ofJson
      fun field r => { r with parent := { r.parent with field } },
    slot "targetEntityId" .required EntityId.ofJson
      fun entity r => { r with child := { r.child with entity } },
    slot "targetFieldId" .required FieldId.ofJson
      fun field r => { r with child := { r.child with field } },
    slot "type" .required Cardinality.ofJson fun cardinality r => { r with cardinality }]

def ofJson : Decoder Relationship :=
  Decoder.record "struct Relationship" blank slots

end Relationship

namespace Schema

def toJson (s : Schema) : Json :=
  .object
    [("entities", .ofList Entity.toJson s.entities),
      ("relationships", .ofList Relationship.toJson s.relationships)]

def slots : List (Decoder.Slot Schema) :=
  [slot "entities" .required (Decoder.list Entity.ofJson) fun entities s => { s with entities },
    slot "relationships" .required (Decoder.list Relationship.ofJson)
      fun relationships s => { s with relationships }]

def ofJson : Decoder Schema :=
  Decoder.record "struct Schema" {} slots

end Schema

end EntityRelation
