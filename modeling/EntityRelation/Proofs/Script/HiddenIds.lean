import EntityRelation.Proofs.Ddl.ImportedScript
import EntityRelation.Proofs.Schema.Placement

/-!
# What a script does not show

A script is made of names, types and flags. Ids decide which entity and which field an end of a
relationship is, and nothing else of them is seen. So a `Disguise`, which changes the entities, the
fields and the ends of a schema but keeps every answer to the question whether an end is this
entity or this field, leaves the script alone. To rename ids is a disguise, and so is to change the
cardinalities of relationships or the places of tables. It does not matter whether ids are
repeated, or whether relationships dangle.
-/

namespace EntityRelation

/-- New ids for the old ones. -/
structure Renaming where
  entity : EntityId → EntityId
  field : FieldId → FieldId
  relationship : RelationshipId → RelationshipId

section Rename

variable (ρ : Renaming)

/-- The field with its new id. -/
def Field.rename (f : Field) : Field :=
  { f with id := ρ.field f.id }

/-- The entity with new ids for itself and its fields. -/
def Entity.rename (e : Entity) : Entity :=
  { e with id := ρ.entity e.id, fields := e.fields.map (Field.rename ρ) }

/-- The end with new ids. -/
def Endpoint.rename (p : Endpoint) : Endpoint :=
  ⟨ρ.entity p.entity, ρ.field p.field⟩

/-- The relationship with new ids for itself and its ends. -/
def Relationship.rename (r : Relationship) : Relationship :=
  { r with
    id := ρ.relationship r.id
    parent := r.parent.rename ρ
    child := r.child.rename ρ }

/-- The schema with new ids. -/
def Schema.rename (s : Schema) : Schema :=
  ⟨s.entities.map (Entity.rename ρ), s.relationships.map (Relationship.rename ρ)⟩

end Rename

/-- The relationship with the cardinality of one that states none. -/
def Relationship.untyped (r : Relationship) : Relationship :=
  { r with cardinality := .standard }

namespace Schema

/-- The schema without the cardinalities of its relationships. -/
def untyped (s : Schema) : Schema :=
  { s with relationships := s.relationships.map Relationship.untyped }

/-- The ends of all relationships, whether they resolve or not. -/
def ends (s : Schema) : List Endpoint :=
  s.relationships.flatMap fun r => [r.parent, r.child]

/-- The entity ids that occur, those of dangling ends included. -/
def entityIds (s : Schema) : List EntityId :=
  s.entities.map (·.id) ++ s.ends.map (·.entity)

/-- The field ids that occur, those of dangling ends included. -/
def fieldIds (s : Schema) : List FieldId :=
  (s.entities.flatMap fun e => e.fields.map (·.id)) ++ s.ends.map (·.field)

end Schema

/-- No two entity ids of the schema become one, and no two field ids. Ids of relationships may. -/
structure Renaming.IsFaithful (ρ : Renaming) (s : Schema) : Prop where
  entities : ∀ a ∈ s.entityIds, ∀ b ∈ s.entityIds, ρ.entity a = ρ.entity b → a = b
  fields : ∀ a ∈ s.fieldIds, ∀ b ∈ s.fieldIds, ρ.field a = ρ.field b → a = b

/-- A change of what a schema consists of, after which an end is the same entity and the same field
as before. -/
structure Disguise (s : Schema) where
  entity : Entity → Entity
  field : Field → Field
  endpoint : Endpoint → Endpoint
  relationship : Relationship → Relationship
  name_entity : ∀ e, (entity e).name = e.name
  fields_entity : ∀ e, (entity e).fields = e.fields.map field
  withoutId_field : ∀ f, (field f).withoutId = f.withoutId
  parent_relationship : ∀ r, (relationship r).parent = endpoint r.parent
  child_relationship : ∀ r, (relationship r).child = endpoint r.child
  entity_id_iff : ∀ p ∈ s.ends, ∀ e ∈ s.entities,
    (entity e).id = (endpoint p).entity ↔ e.id = p.entity
  field_id_iff : ∀ p ∈ s.ends, ∀ e ∈ s.entities, ∀ f ∈ e.fields,
    (field f).id = (endpoint p).field ↔ f.id = p.field

namespace Disguise

open Script

variable {s : Schema} (D : Disguise s) {e : Entity} {p : Endpoint} {r : Relationship}

/-- The schema in its disguise. -/
def apply : Schema :=
  ⟨s.entities.map D.entity, s.relationships.map D.relationship⟩

theorem mem_ends_parent (hr : r ∈ s.relationships) : r.parent ∈ s.ends :=
  List.mem_flatMap.2 ⟨r, hr, by simp⟩

theorem mem_ends_child (hr : r ∈ s.relationships) : r.child ∈ s.ends :=
  List.mem_flatMap.2 ⟨r, hr, by simp⟩

/-! ## Look-up -/

theorem entity?_apply (hp : p ∈ s.ends) :
    D.apply.entity? (D.endpoint p).entity = (s.entity? p.entity).map D.entity := by
  have hsame : ∀ e ∈ s.entities,
      ((D.entity e).id == (D.endpoint p).entity) = (e.id == p.entity) := by
    intro e he
    rw [Bool.eq_iff_iff, beq_iff_eq, beq_iff_eq]
    exact D.entity_id_iff p hp e he
  rw [Schema.entity?, apply, List.find?_map, Schema.entity?]
  exact congrArg (Option.map D.entity) (List.find?_congr hsame)

theorem field?_entity (hp : p ∈ s.ends) (he : e ∈ s.entities) :
    (D.entity e).field? (D.endpoint p).field = (e.field? p.field).map D.field := by
  have hsame : ∀ f ∈ e.fields, ((D.field f).id == (D.endpoint p).field) = (f.id == p.field) := by
    intro f hf
    rw [Bool.eq_iff_iff, beq_iff_eq, beq_iff_eq]
    exact D.field_id_iff p hp e he f hf
  rw [Entity.field?, D.fields_entity, List.find?_map, Entity.field?]
  exact congrArg (Option.map D.field) (List.find?_congr hsame)

theorem endpoint?_apply (hp : p ∈ s.ends) :
    D.apply.endpoint? (D.endpoint p) = (s.endpoint? p).map (Prod.map D.entity D.field) := by
  rw [Schema.endpoint?, Schema.endpoint?, D.entity?_apply hp]
  cases hentity : s.entity? p.entity with
  | none => rfl
  | some e =>
      simp only [Option.map_some, bind, Option.bind_some]
      rw [D.field?_entity hp (Schema.mem_of_entity? hentity)]
      cases e.field? p.field with
      | none => rfl
      | some f => rfl

theorem name_field (f : Field) : (D.field f).name = f.name := by
  have hname := congrArg Field.name (D.withoutId_field f)
  exact hname

/-- A relationship joins the columns that it joined before, by their names. -/
theorem linkNames?_apply (hr : r ∈ s.relationships) :
    D.apply.linkNames? (D.relationship r) = s.linkNames? r := by
  rw [Schema.linkNames?, Schema.resolve?, D.parent_relationship, D.child_relationship,
    D.endpoint?_apply (mem_ends_parent hr), D.endpoint?_apply (mem_ends_child hr),
    Schema.linkNames?, Schema.resolve?]
  cases s.endpoint? r.parent with
  | none => rfl
  | some parent =>
      cases s.endpoint? r.child with
      | none => rfl
      | some child =>
          simp only [Option.map_some, bind, Option.bind_some, pure, Prod.map_fst, Prod.map_snd,
            D.name_entity, D.name_field]

theorem isSome_resolve?_apply (hr : r ∈ s.relationships) :
    (D.apply.resolve? (D.relationship r)).isSome = (s.resolve? r).isSome := by
  have hnames := congrArg Option.isSome (D.linkNames?_apply hr)
  rwa [Schema.linkNames?, Schema.linkNames?, Option.isSome_map, Option.isSome_map] at hnames

theorem incoming_apply (he : e ∈ s.entities) :
    D.apply.incoming (D.entity e).id = (s.incoming e.id).map D.relationship := by
  have hsame : ∀ r ∈ s.relationships,
      ((D.relationship r).child.entity == (D.entity e).id) = (r.child.entity == e.id) := by
    intro r hr
    rw [Bool.eq_iff_iff, beq_iff_eq, beq_iff_eq, D.child_relationship, eq_comm,
      D.entity_id_iff r.child (mem_ends_child hr) e he, eq_comm]
  rw [Schema.incoming, apply, List.filter_map, Schema.incoming]
  exact congrArg (List.map D.relationship) (List.filter_congr hsame)

/-! ## Tables and indexes -/

theorem foreignKeys_apply (he : e ∈ s.entities) :
    ((D.apply.incoming (D.entity e).id).filterMap D.apply.resolve?).map
        ForeignKeyDefinition.ofLink =
      ((s.incoming e.id).filterMap s.resolve?).map ForeignKeyDefinition.ofLink := by
  rw [Schema.foreignKeys_eq, Schema.foreignKeys_eq, D.incoming_apply he, List.filterMap_map]
  refine List.filterMap_congr fun r hr => ?_
  rw [Function.comp_apply, D.linkNames?_apply (List.mem_of_mem_filter hr)]

theorem content_entity (e : Entity) : (D.entity e).content = e.content := by
  rw [Entity.content, Entity.content, D.name_entity, D.fields_entity, List.map_map]
  have hfields : Field.withoutId ∘ D.field = Field.withoutId := funext D.withoutId_field
  rw [hfields]

theorem table_apply (o : ScriptOptions) (he : e ∈ s.entities)
    (hplace : o.includePositions = true → (D.entity e).position = e.position) :
    TableDefinition.ofEntity D.apply o (D.entity e) = TableDefinition.ofEntity s o e := by
  obtain ⟨hcolumns, hkeys⟩ := Schema.columns_of_content (D.content_entity e) o.dialect
  have hlength := congrArg List.length hkeys
  rw [List.length_map, List.length_map] at hlength
  rw [TableDefinition.ofEntity, TableDefinition.ofEntity, TableDefinition.mk.injEq]
  refine ⟨?_, D.name_entity e, hcolumns, ?_, D.foreignKeys_apply he⟩
  · cases hpositions : o.includePositions with
    | false => rfl
    | true => rw [if_pos rfl, if_pos rfl, hplace hpositions]
  · rw [hkeys, hlength]

theorem isIndexed_apply (he : e ∈ s.entities) {f : Field} (hf : f ∈ e.fields) :
    IndexDefinition.isIndexed D.apply (D.entity e) (D.field f) =
      IndexDefinition.isIndexed s e f := by
  have hflag := congrArg Field.isForeignKey (D.withoutId_field f)
  simp only [Field.withoutId] at hflag
  have hends : ∀ r ∈ s.incoming e.id,
      ((D.relationship r).child.field == (D.field f).id) = (r.child.field == f.id) := by
    intro r hr
    have hchild := mem_ends_child (List.mem_of_mem_filter hr)
    rw [Bool.eq_iff_iff, beq_iff_eq, beq_iff_eq, D.child_relationship, eq_comm,
      D.field_id_iff r.child hchild e he f hf, eq_comm]
  rw [IndexDefinition.isIndexed, IndexDefinition.isIndexed, hflag, D.incoming_apply he,
    List.any_map, Bool.eq_iff_iff, Bool.or_eq_true, Bool.or_eq_true, List.any_eq_true,
    List.any_eq_true]
  refine or_congr_right (exists_congr fun r => and_congr_right fun hr => ?_)
  rw [Function.comp_apply, hends r hr, D.isSome_resolve?_apply (List.mem_of_mem_filter hr)]

theorem indexes_apply (he : e ∈ s.entities) :
    IndexDefinition.ofEntity D.apply (D.entity e) = IndexDefinition.ofEntity s e := by
  have hfilter : e.fields.filter (IndexDefinition.isIndexed D.apply (D.entity e) ∘ D.field) =
      e.fields.filter (IndexDefinition.isIndexed s e) :=
    List.filter_congr fun f hf => D.isIndexed_apply he hf
  rw [IndexDefinition.ofEntity, IndexDefinition.ofEntity, D.fields_entity, List.filter_map,
    List.map_map, D.name_entity, hfilter]
  refine List.map_congr_left fun f _ => ?_
  rw [Function.comp_apply, D.name_field]

/-! ## The order of the tables -/

theorem lastIndex?_apply (hp : p ∈ s.ends) :
    D.apply.lastIndex? (D.endpoint p).entity = s.lastIndex? p.entity := by
  have hsame : ∀ a ∈ s.entities.zipIdx.reverse,
      ((D.entity a.1).id == (D.endpoint p).entity) = (a.1.id == p.entity) := by
    intro a ha
    rw [Bool.eq_iff_iff, beq_iff_eq, beq_iff_eq]
    exact D.entity_id_iff p hp a.1 (List.fst_mem_of_mem_zipIdx (List.mem_reverse.1 ha))
  rw [Schema.lastIndex?, apply, List.zipIdx_map, ← List.map_reverse, List.find?_map,
    Option.map_map, Schema.lastIndex?]
  exact congrArg (Option.map _) (List.find?_congr hsame)

theorem dependencies_apply : D.apply.dependencies = s.dependencies := by
  rw [Schema.dependencies, apply, List.filterMap_map, Schema.dependencies]
  refine List.filterMap_congr fun r hr => ?_
  rw [Function.comp_apply, D.parent_relationship, D.child_relationship]
  have hparent := D.lastIndex?_apply (mem_ends_parent hr)
  have hchild := D.lastIndex?_apply (mem_ends_child hr)
  rw [apply] at hparent hchild
  rw [hparent, hchild]

theorem orderedEntities_apply (order : TableOrder) :
    orderedEntities D.apply order = (orderedEntities s order).map D.entity := by
  cases order with
  | insertion => rfl
  | dependencies =>
      have horder : D.apply.creationOrder? = s.creationOrder? := by
        rw [Schema.creationOrder?, Schema.creationOrder?, D.dependencies_apply, apply,
          List.length_map]
      rw [orderedEntities, orderedEntities, horder]
      cases s.creationOrder? with
      | none => rfl
      | some indices =>
          rw [apply, List.map_filterMap]
          exact List.filterMap_congr fun i _ => List.getElem?_map

theorem mem_of_mem_orderedEntities {order : TableOrder} (h : e ∈ orderedEntities s order) :
    e ∈ s.entities := by
  cases order with
  | insertion => exact h
  | dependencies =>
      rw [orderedEntities] at h
      cases hfind : s.creationOrder? with
      | none => rwa [hfind] at h
      | some indices =>
          rw [hfind] at h
          obtain ⟨i, -, hi⟩ := List.mem_filterMap.1 h
          exact List.mem_of_getElem? hi

/-- The script is that of the schema, if the places that it shows are. -/
theorem toScript_apply (o : ScriptOptions)
    (hplace : o.includePositions = true → ∀ e, (D.entity e).position = e.position) :
    D.apply.toScript o = s.toScript o := by
  have htables : (orderedEntities D.apply o.order).map (TableDefinition.ofEntity D.apply o) =
      (orderedEntities s o.order).map (TableDefinition.ofEntity s o) := by
    rw [D.orderedEntities_apply, List.map_map]
    exact List.map_congr_left fun e he =>
      D.table_apply o (mem_of_mem_orderedEntities he) fun h => hplace h e
  have hindexes : (orderedEntities D.apply o.order).map (IndexDefinition.ofEntity D.apply) =
      (orderedEntities s o.order).map (IndexDefinition.ofEntity s) := by
    rw [D.orderedEntities_apply, List.map_map]
    exact List.map_congr_left fun e he => D.indexes_apply (mem_of_mem_orderedEntities he)
  have hnames : (orderedEntities D.apply o.order).map Entity.name =
      (orderedEntities s o.order).map Entity.name := by
    rw [D.orderedEntities_apply, List.map_map]
    exact List.map_congr_left fun e _ => D.name_entity e
  have hscript : ofSchema D.apply o = ofSchema s o := by
    rw [ofSchema, ofSchema, htables, hindexes, List.map_reverse, List.map_reverse, hnames]
  rw [Schema.toScript, Schema.toScript, hscript]

/-! ## Three disguises -/

/-- New ids. -/
def ofRenaming {ρ : Renaming} (h : ρ.IsFaithful s) : Disguise s where
  entity := Entity.rename ρ
  field := Field.rename ρ
  endpoint := Endpoint.rename ρ
  relationship := Relationship.rename ρ
  name_entity _ := rfl
  fields_entity _ := rfl
  withoutId_field _ := rfl
  parent_relationship _ := rfl
  child_relationship _ := rfl
  entity_id_iff p hp e he := by
    have he : e.id ∈ s.entityIds := List.mem_append_left _ (List.mem_map_of_mem he)
    have hp : p.entity ∈ s.entityIds := List.mem_append_right _ (List.mem_map_of_mem hp)
    exact ⟨h.entities _ he _ hp, congrArg ρ.entity⟩
  field_id_iff p hp e he f hf := by
    have hf : f.id ∈ s.fieldIds :=
      List.mem_append_left _ (List.mem_flatMap.2 ⟨e, he, List.mem_map_of_mem hf⟩)
    have hp : p.field ∈ s.fieldIds := List.mem_append_right _ (List.mem_map_of_mem hp)
    exact ⟨h.fields _ hf _ hp, congrArg ρ.field⟩

/-- Other cardinalities. -/
def ofCardinalities (s : Schema) : Disguise s where
  entity := id
  field := id
  endpoint := id
  relationship := Relationship.untyped
  name_entity _ := rfl
  fields_entity _ := (List.map_id _).symm
  withoutId_field _ := rfl
  parent_relationship _ := rfl
  child_relationship _ := rfl
  entity_id_iff _ _ _ _ := Iff.rfl
  field_id_iff _ _ _ _ _ _ := Iff.rfl

/-- Other places. -/
def ofPlaces (s : Schema) : Disguise s where
  entity := Entity.unplaced
  field := id
  endpoint := id
  relationship := id
  name_entity _ := rfl
  fields_entity _ := (List.map_id _).symm
  withoutId_field _ := rfl
  parent_relationship _ := rfl
  child_relationship _ := rfl
  entity_id_iff _ _ _ _ := Iff.rfl
  field_id_iff _ _ _ _ _ _ := Iff.rfl

end Disguise

namespace Schema

variable {s t : Schema} (o : ScriptOptions)

theorem toScript_untyped (s : Schema) : s.untyped.toScript o = s.toScript o := by
  have happly := (Disguise.ofCardinalities s).toScript_apply o fun _ _ => rfl
  rwa [Disguise.apply, Disguise.ofCardinalities, List.map_id] at happly

theorem toScript_unplaced (s : Schema) (h : o.includePositions = false) :
    s.unplaced.toScript o = s.toScript o := by
  have happly := (Disguise.ofPlaces s).toScript_apply o
    fun hplaces => absurd (h.symm.trans hplaces) (by simp)
  rwa [Disguise.apply, Disguise.ofPlaces, List.map_id] at happly

/-- A script shows no ids: it is the same for all names that ids may have. It does not depend on
the cardinalities either, nor on the places of tables, unless it is asked to note them. -/
theorem toScript_shows_no_ids (s : Schema) (o : ScriptOptions) :
    (∀ ρ : Renaming, ρ.IsFaithful s → (s.rename ρ).toScript o = s.toScript o) ∧
      (∀ t : Schema, t.untyped = s.untyped → t.toScript o = s.toScript o) ∧
      (o.includePositions = false →
        ∀ t : Schema, t.unplaced = s.unplaced → t.toScript o = s.toScript o) := by
  refine ⟨fun ρ h => ?_, fun t h => ?_, fun hplaces t h => ?_⟩
  · exact (Disguise.ofRenaming h).toScript_apply o fun _ _ => rfl
  · rw [← toScript_untyped o t, h, toScript_untyped]
  · rw [← toScript_unplaced o t hplaces, h, toScript_unplaced o s hplaces]

/-- Two tables of the same id, and a relationship of which one end dangles. -/
def tangled : Schema where
  entities :=
    [⟨⟨"a"⟩, "users", [{ id := ⟨"k"⟩, name := "id", dataType := "INT", isPrimaryKey := true }],
        .origin⟩,
      ⟨⟨"b"⟩, "posts", [{ id := ⟨"k"⟩, name := "author", dataType := "INT" }], .origin⟩,
      ⟨⟨"a"⟩, "logs", [{ id := ⟨"k"⟩, name := "line", dataType := "TEXT" }], .origin⟩]
  relationships :=
    [⟨⟨"r"⟩, ⟨⟨"a"⟩, ⟨"k"⟩⟩, ⟨⟨"b"⟩, ⟨"k"⟩⟩, .oneToMany⟩,
      ⟨⟨"q"⟩, ⟨⟨"b"⟩, ⟨"k"⟩⟩, ⟨⟨"z"⟩, ⟨"k"⟩⟩, .oneToOne⟩]

/-- `a` and `b` change places, and all relationships get the same id. -/
def swapped : Renaming where
  entity id := if id = ⟨"a"⟩ then ⟨"b"⟩ else if id = ⟨"b"⟩ then ⟨"a"⟩ else id
  field id := ⟨id.text ++ "-new"⟩
  relationship _ := ⟨""⟩

/-- Parents come first by the last table of an id, references go to the first one, before and
after. -/
theorem toScript_shows_no_ids_tangled :
    swapped.IsFaithful tangled ∧ (tangled.rename swapped).entityIds ≠ tangled.entityIds ∧
      (tangled.rename swapped).toScript { dialect := .sqlite, order := .dependencies } =
        "CREATE TABLE users (\n  id INT PRIMARY KEY\n);\n\n" ++
          "CREATE TABLE logs (\n  line TEXT\n);\n\n" ++
          "CREATE TABLE posts (\n  author INT,\n  FOREIGN KEY (author) REFERENCES users(id)\n);\n\n" ++
          "CREATE INDEX idx_posts_author ON posts(author);\n\n" := by
  have hfaithful : swapped.IsFaithful tangled := ⟨by decide, by decide⟩
  refine ⟨hfaithful, by decide, ?_⟩
  rw [(toScript_shows_no_ids tangled _).1 swapped hfaithful]
  decide +kernel

end Schema

end EntityRelation
