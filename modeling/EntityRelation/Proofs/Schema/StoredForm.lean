import EntityRelation.Proofs.Json.Forms
import EntityRelation.Schema.Wire

/-!
# The stored form of a schema

What JSON values stand for a schema: its members may stand in any order and among others. A flag
may be left out if it is false, a position if it is the origin, and a default value or a reference
if there is none; these may also be null. A schema with finite coordinates is read from each of
these values (`Schema.matches_form`), among which is the one that is written (`Schema.form_toJson`).
-/

namespace EntityRelation

open Json (Form)
open Decoder (Layout Matches member)

/-! ## Ids and cardinalities -/

@[simp] theorem EntityId.ofJson_toJson (id : EntityId) : EntityId.ofJson id.toJson = .ok id := rfl

@[simp] theorem FieldId.ofJson_toJson (id : FieldId) : FieldId.ofJson id.toJson = .ok id := rfl

@[simp] theorem RelationshipId.ofJson_toJson (id : RelationshipId) :
    RelationshipId.ofJson id.toJson = .ok id := rfl

@[simp] theorem Cardinality.ofJson_toJson (c : Cardinality) :
    Cardinality.ofJson c.toJson = .ok c := by
  cases c <;> rfl

@[simp] theorem Decoder.float_ofFloat {x : Float} (h : x.isFinite) :
    Decoder.float (.ofFloat x) = .ok x := by
  rw [Json.ofFloat, if_pos h, Decoder.float]

/-! ## Positions -/

namespace Position

/-- Both coordinates are numbers that JSON can write. -/
structure IsFinite (p : Position) : Prop where
  x : p.x.isFinite
  y : p.y.isFinite

def form (p : Position) : Form :=
  .record [.must "x" (.exactly (.ofFloat p.x)), .must "y" (.exactly (.ofFloat p.y))]

def layout : Layout Position where
  blank := .origin
  members :=
    [member "x" .required Decoder.float Position.x fun x p => { p with x },
      member "y" .required Decoder.float Position.y fun y p => { p with y }]

theorem matches_form {p : Position} (h : p.IsFinite) : Matches ofJson p p.form :=
  layout.matches_record "struct Position" <|
    .cons (.must (.exactly (Decoder.float_ofFloat h.x))) <|
    .cons (.must (.exactly (Decoder.float_ofFloat h.y))) .nil

theorem form_toJson (p : Position) : p.form false p.toJson := by
  refine ⟨_, rfl, by simp, ?_⟩
  simp [Json.lookup_cons_eq_ite]

theorem ofJson_toJson {p : Position} (h : p.IsFinite) : ofJson p.toJson = .ok p :=
  (matches_form h).reads p.form_toJson

end Position

/-! ## Fields -/

namespace ColumnName

def form (c : ColumnName) : Form :=
  .record [.must "table" (.exactly (.text c.table)), .must "field" (.exactly (.text c.field))]

def layout : Layout ColumnName where
  blank := ⟨"", ""⟩
  members :=
    [member "table" .required Decoder.text table fun table c => { c with table },
      member "field" .required Decoder.text ColumnName.field fun field c => { c with field }]

theorem matches_form (c : ColumnName) : Matches ofJson c c.form :=
  layout.matches_record "struct FieldReference" <|
    .cons (.must (.exactly rfl)) <|
    .cons (.must (.exactly rfl)) .nil

theorem form_toJson (c : ColumnName) : c.form false c.toJson := by
  refine ⟨_, rfl, by simp, ?_⟩
  simp [Json.lookup_cons_eq_ite]

end ColumnName

namespace Field

def form (f : Field) : Form :=
  .record
    [.must "id" (.exactly f.id.toJson), .must "name" (.exactly (.text f.name)),
      .must "type" (.exactly (.text f.dataType)),
      .may "isPrimaryKey" (f.isPrimaryKey = false) (.exactly (.bool f.isPrimaryKey)),
      .may "isForeignKey" (f.isForeignKey = false) (.exactly (.bool f.isForeignKey)),
      .may "isNotNull" (f.isNotNull = false) (.exactly (.bool f.isNotNull)),
      .may "isUnique" (f.isUnique = false) (.exactly (.bool f.isUnique)),
      .may "defaultValue" (f.defaultValue = none)
        (.optional (f.defaultValue.map fun value => .exactly (.text value))),
      .may "references" (f.references = none)
        (.optional (f.references.map ColumnName.form))]

def layout : Layout Field where
  blank := blank
  members :=
    [member "id" .required FieldId.ofJson Field.id fun id f => { f with id },
      member "name" .required Decoder.text Field.name fun name f => { f with name },
      member "type" .required Decoder.text dataType fun dataType f => { f with dataType },
      member "isPrimaryKey" .defaulted Decoder.bool isPrimaryKey
        fun isPrimaryKey f => { f with isPrimaryKey },
      member "isForeignKey" .defaulted Decoder.bool isForeignKey
        fun isForeignKey f => { f with isForeignKey },
      member "isNotNull" .defaulted Decoder.bool isNotNull fun isNotNull f => { f with isNotNull },
      member "isUnique" .defaulted Decoder.bool isUnique fun isUnique f => { f with isUnique },
      member "defaultValue" .defaulted (Decoder.option Decoder.text) defaultValue
        fun defaultValue f => { f with defaultValue },
      member "references" .defaulted (Decoder.option ColumnName.ofJson) references
        fun references f => { f with references }]

theorem matches_form (f : Field) : Matches ofJson f f.form :=
  layout.matches_record "struct Field" <|
    .cons (.must (.exactly rfl)) <|
    .cons (.must (.exactly rfl)) <|
    .cons (.must (.exactly rfl)) <|
    .cons (.may (.exactly rfl)) <|
    .cons (.may (.exactly rfl)) <|
    .cons (.may (.exactly rfl)) <|
    .cons (.may (.exactly rfl)) <|
    .cons (.may (.optional (fun _ _ => .exactly rfl) nofun)) <|
    .cons (.may (.optional (fun c _ => c.matches_form) nofun)) .nil

theorem form_toJson (f : Field) : f.form false f.toJson := by
  obtain ⟨id, name, dataType, isPrimaryKey, isForeignKey, isNotNull, isUnique, defaultValue,
    references⟩ := f
  refine ⟨_, rfl, ?_, ?_⟩
  · cases defaultValue <;> cases references <;> simp [optionalMembers]
  · cases defaultValue <;> cases references <;>
      simp [optionalMembers, Form.optional, Json.lookup_cons_eq_ite, ColumnName.form_toJson]

theorem ofJson_toJson (f : Field) : ofJson f.toJson = .ok f :=
  f.matches_form.reads f.form_toJson

end Field

/-! ## Entities and relationships -/

namespace Entity

def form (e : Entity) : Form :=
  .record
    [.must "id" (.exactly e.id.toJson), .must "name" (.exactly (.text e.name)),
      .must "fields" (.list (e.fields.map Field.form)),
      .may "position" (e.position = .origin) e.position.form]

def layout : Layout Entity where
  blank := blank
  members :=
    [member "id" .required EntityId.ofJson Entity.id fun id e => { e with id },
      member "name" .required Decoder.text Entity.name fun name e => { e with name },
      member "fields" .required (Decoder.list Field.ofJson) fields
        fun fields e => { e with fields },
      member "position" .defaulted Position.ofJson position fun position e => { e with position }]

theorem matches_form {e : Entity} (h : e.position.IsFinite) : Matches ofJson e e.form :=
  layout.matches_record "struct Entity" <|
    .cons (.must (.exactly rfl)) <|
    .cons (.must (.exactly rfl)) <|
    .cons (.must (.list fun f _ => f.matches_form)) <|
    .cons (.may (Position.matches_form h)) .nil

theorem form_toJson (e : Entity) : e.form false e.toJson := by
  refine ⟨_, rfl, by simp, ?_⟩
  have hfields := Form.list_ofList fun f (_ : f ∈ e.fields) => f.form_toJson
  simp [Json.lookup_cons_eq_ite, hfields, Position.form_toJson]

end Entity

namespace Relationship

def form (r : Relationship) : Form :=
  .record
    [.must "id" (.exactly r.id.toJson),
      .must "sourceEntityId" (.exactly r.parent.entity.toJson),
      .must "sourceFieldId" (.exactly r.parent.field.toJson),
      .must "targetEntityId" (.exactly r.child.entity.toJson),
      .must "targetFieldId" (.exactly r.child.field.toJson),
      .must "type" (.exactly r.cardinality.toJson)]

def layout : Layout Relationship where
  blank := blank
  members :=
    [member "id" .required RelationshipId.ofJson Relationship.id fun id r => { r with id },
      member "sourceEntityId" .required EntityId.ofJson (fun r => r.parent.entity)
        fun entity r => { r with parent := { r.parent with entity } },
      member "sourceFieldId" .required FieldId.ofJson (fun r => r.parent.field)
        fun field r => { r with parent := { r.parent with field } },
      member "targetEntityId" .required EntityId.ofJson (fun r => r.child.entity)
        fun entity r => { r with child := { r.child with entity } },
      member "targetFieldId" .required FieldId.ofJson (fun r => r.child.field)
        fun field r => { r with child := { r.child with field } },
      member "type" .required Cardinality.ofJson cardinality
        fun cardinality r => { r with cardinality }]
  ext := by
    rintro ⟨_, ⟨⟩, ⟨⟩, _⟩ ⟨_, ⟨⟩, ⟨⟩, _⟩ h
    simpa [member, and_assoc] using h

theorem matches_form (r : Relationship) : Matches ofJson r r.form :=
  layout.matches_record "struct Relationship" <|
    .cons (.must (.exactly rfl)) <|
    .cons (.must (.exactly rfl)) <|
    .cons (.must (.exactly rfl)) <|
    .cons (.must (.exactly rfl)) <|
    .cons (.must (.exactly rfl)) <|
    .cons (.must (.exactly r.cardinality.ofJson_toJson)) .nil

theorem form_toJson (r : Relationship) : r.form false r.toJson := by
  refine ⟨_, rfl, by simp, ?_⟩
  simp [Json.lookup_cons_eq_ite]

end Relationship

/-! ## Schemas -/

namespace Schema

/-- All coordinates are numbers that JSON can write. -/
def IsFinite (s : Schema) : Prop :=
  ∀ e ∈ s.entities, e.position.IsFinite

def form (s : Schema) : Form :=
  .record
    [.must "entities" (.list (s.entities.map Entity.form)),
      .must "relationships" (.list (s.relationships.map Relationship.form))]

def layout : Layout Schema where
  blank := {}
  members :=
    [member "entities" .required (Decoder.list Entity.ofJson) entities
        fun entities s => { s with entities },
      member "relationships" .required (Decoder.list Relationship.ofJson) relationships
        fun relationships s => { s with relationships }]

/-- A schema is read from every value of its form, and from none where more is left out. -/
theorem matches_form {s : Schema} (h : s.IsFinite) : Matches ofJson s s.form :=
  layout.matches_record "struct Schema" <|
    .cons (.must (.list fun e he => Entity.matches_form (h e he))) <|
    .cons (.must (.list fun r _ => r.matches_form)) .nil

/-- What is written is in the form. -/
theorem form_toJson (s : Schema) : s.form false s.toJson := by
  refine ⟨_, rfl, by simp, ?_⟩
  have hentities := Form.list_ofList fun e (_ : e ∈ s.entities) => e.form_toJson
  have hrelationships := Form.list_ofList fun r (_ : r ∈ s.relationships) => r.form_toJson
  simp [Json.lookup_cons_eq_ite, hentities, hrelationships]

end Schema

end EntityRelation
