import EntityRelation.Proofs.Session.Closed

/-!
# Runs of operations

Operations that follow each other from the empty schema lead to well-formed schemas, whatever ids
the operations take as long as these are fresh (`Schema.Edited.wellFormed`). They are fresh where
one supply goes from operation to operation: what a schema holds then has ids that the supply has
given out before (`IdSupply.Issued`), and an id that is given out next is none of those
(`Operation.edited_run`).
-/

namespace EntityRelation

/-- The schemas that operations lead to from the empty schema. A refused operation leaves the
schema as it is. -/
inductive Schema.Edited : Schema → Prop where
  | empty : Edited {}
  | step {s : Schema} {ids : IdSupply} (op : Operation) : Edited s → ids.Fresh s →
      Edited (op.schemaAfter s ids)

namespace Schema

variable {s : Schema}

theorem named_empty : Named {} where
  fields := fun _ h => absurd h List.not_mem_nil
  entityNames := fun _ h => absurd h List.not_mem_nil
  entityNames_distinct := List.nodup_nil
  fieldNames := fun _ h => absurd h List.not_mem_nil
  fieldNames_distinct := fun _ h => absurd h List.not_mem_nil
  links_distinct := List.nodup_nil

theorem Edited.wellFormed (h : s.Edited) : s.WellFormed := by
  induction h with
  | empty => exact { closed_empty, named_empty with }
  | @step s ids op _ hfresh ih =>
      rw [Operation.schemaAfter]
      split
      · next hp => exact Operation.wellFormed_of_perform ih hfresh hp
      · exact ih

end Schema

/-! ## Ids that have been given out -/

/-- The ids in a schema are ids that a supply has given out before. -/
structure IdSupply.Issued (ids : IdSupply) (s : Schema) : Prop where
  entity : ∀ e ∈ s.entities, ∃ old : IdSupply, old.entities < ids.entities ∧ e.id = old.entity
  field : ∀ e ∈ s.entities, ∀ f ∈ e.fields,
    ∃ old : IdSupply, old.fields < ids.fields ∧ f.id = old.field
  relationship : ∀ r ∈ s.relationships,
    ∃ old : IdSupply, old.relationships < ids.relationships ∧ r.id = old.relationship

namespace IdSupply

variable {ids : IdSupply} {s t : Schema}

theorem entity_ne {old : IdSupply} (h : old.entities < ids.entities) : old.entity ≠ ids.entity := by
  intro heq
  have hnumber := Text.numbered_injective "entity-new-" (congrArg EntityId.text heq)
  omega

theorem field_ne {old : IdSupply} (h : old.fields < ids.fields) : old.field ≠ ids.field := by
  intro heq
  have hnumber := Text.numbered_injective "field-new-" (congrArg FieldId.text heq)
  omega

theorem relationship_ne {old : IdSupply} (h : old.relationships < ids.relationships) :
    old.relationship ≠ ids.relationship := by
  intro heq
  have hnumber := Text.numbered_injective "relationship-new-" (congrArg RelationshipId.text heq)
  omega

namespace Issued

theorem empty : ids.Issued {} :=
  ⟨fun _ h => absurd h List.not_mem_nil, fun _ h => absurd h List.not_mem_nil,
    fun _ h => absurd h List.not_mem_nil⟩

/-- What is given out next is not in the schema. -/
theorem fresh (h : ids.Issued s) : ids.Fresh s := by
  refine ⟨fun e he => ?_, fun e he f hf => ?_, fun r hr => ?_⟩
  · obtain ⟨old, hlt, hid⟩ := h.entity e he
    exact hid ▸ entity_ne hlt
  · obtain ⟨old, hlt, hid⟩ := h.field e he f hf
    exact hid ▸ field_ne hlt
  · obtain ⟨old, hlt, hid⟩ := h.relationship r hr
    exact hid ▸ relationship_ne hlt

/-- A supply that has given out more has still given out the same ids. -/
theorem later (h : ids.Issued s) {ids' : IdSupply} (hentities : ids.entities ≤ ids'.entities)
    (hfields : ids.fields ≤ ids'.fields) (hrelationships : ids.relationships ≤ ids'.relationships) :
    ids'.Issued s := by
  refine ⟨fun e he => ?_, fun e he f hf => ?_, fun r hr => ?_⟩
  · obtain ⟨old, hlt, hid⟩ := h.entity e he
    exact ⟨old, hlt.trans_le hentities, hid⟩
  · obtain ⟨old, hlt, hid⟩ := h.field e he f hf
    exact ⟨old, hlt.trans_le hfields, hid⟩
  · obtain ⟨old, hlt, hid⟩ := h.relationship r hr
    exact ⟨old, hlt.trans_le hrelationships, hid⟩

theorem bare_iff : ids.Issued s.bare ↔ ids.Issued s := by
  constructor
  · rintro ⟨he, hf, hr⟩
    refine ⟨fun e hmem => he e.bare (List.mem_map_of_mem hmem), fun e hmem f hfield => ?_, hr⟩
    exact hf e.bare (List.mem_map_of_mem hmem) f.clearReference (List.mem_map_of_mem hfield)
  · rintro ⟨he, hf, hr⟩
    refine ⟨fun e hmem => ?_, fun e hmem f hfield => ?_, hr⟩
    · obtain ⟨e', hmem', rfl⟩ := List.mem_map.1 hmem
      exact he e' hmem'
    · obtain ⟨e', hmem', rfl⟩ := List.mem_map.1 hmem
      obtain ⟨f', hfield', rfl⟩ := List.mem_map.1 hfield
      exact hf e' hmem' f' hfield'

theorem syncForeignKeys (h : ids.Issued s) : ids.Issued s.syncForeignKeys := by
  rw [← bare_iff, Schema.bare_syncForeignKeys, bare_iff]
  exact h

/-- A part of a schema has no other ids. -/
theorem of_subset (h : ids.Issued s) (hentities : t.entities ⊆ s.entities)
    (hrelationships : ∀ r ∈ t.relationships, ∃ r' ∈ s.relationships, r.id = r'.id) :
    ids.Issued t := by
  refine ⟨fun e he => h.entity e (hentities he), fun e he => h.field e (hentities he),
    fun r hr => ?_⟩
  obtain ⟨r', hr', hid⟩ := hrelationships r hr
  exact hid ▸ h.relationship r' hr'

/-- An entity may be changed when it keeps its id and gets only fields with ids given out. -/
theorem updateEntity (h : ids.Issued s) (id : EntityId) {f : Entity → Entity}
    (hid : ∀ e, (f e).id = e.id)
    (hfields : ∀ e ∈ s.entities, ∀ g ∈ (f e).fields,
      (∃ g' ∈ e.fields, g.id = g'.id) ∨ ∃ old : IdSupply, old.fields < ids.fields ∧ g.id = old.field) :
    ids.Issued (s.updateEntity id f) := by
  refine ⟨fun e he => ?_, fun e he g hg => ?_, h.relationship⟩
  · rcases mem_updateFirst he with hold | ⟨e, hold, rfl⟩
    · exact h.entity e hold
    · exact hid e ▸ h.entity e hold
  · rcases mem_updateFirst he with hold | ⟨e, hold, rfl⟩
    · exact h.field e hold g hg
    · rcases hfields e hold g hg with ⟨g', hg', hsame⟩ | hnew
      · exact hsame ▸ h.field e hold g' hg'
      · exact hnew

theorem pushNew (h : ids.Issued s) (name : String) :
    ids.afterEntity.Issued (s.pushEntity (s.newEntity name ids.entity ids.field)) := by
  have hlater : ids.afterEntity.Issued s := h.later (Nat.le_succ _) (Nat.le_succ _) le_rfl
  refine ⟨fun e he => ?_, fun e he f hf => ?_, hlater.relationship⟩
  · rcases List.mem_append.1 he with hold | hnew
    · exact hlater.entity e hold
    · obtain rfl := List.mem_singleton.1 hnew
      exact ⟨ids, Nat.lt_succ_self _, rfl⟩
  · rcases List.mem_append.1 he with hold | hnew
    · exact hlater.field e hold f hf
    · obtain rfl := List.mem_singleton.1 hnew
      obtain rfl := List.mem_singleton.1 hf
      exact ⟨ids, Nat.lt_succ_self _, rfl⟩

theorem pushRelationship (h : ids.Issued s) {r : Relationship} (hr : r.id = ids.relationship) :
    ids.afterRelationship.Issued (s.pushRelationship r) := by
  have hlater : ids.afterRelationship.Issued s := h.later le_rfl le_rfl (Nat.le_succ _)
  refine ⟨hlater.entity, hlater.field, fun r' hr' => ?_⟩
  rcases List.mem_append.1 hr' with hold | hnew
  · exact hlater.relationship r' hold
  · obtain rfl := List.mem_singleton.1 hnew
    exact ⟨ids, Nat.lt_succ_self _, hr⟩

theorem withoutEntity (h : ids.Issued s) (id : EntityId) : ids.Issued (s.withoutEntity id) :=
  h.of_subset (eraseFirst_sublist _ _).subset fun r hr => ⟨r, List.mem_of_mem_filter hr, rfl⟩

theorem withoutField (h : ids.Issued s) (entity : EntityId) (id : FieldId) :
    ids.Issued (s.withoutField entity id) := by
  have hshorter : ids.Issued (s.updateEntity entity fun e =>
      { e with fields := eraseFirst (·.id == id) e.fields }) :=
    h.updateEntity entity (fun _ => rfl) fun e _ g hg =>
      Or.inl ⟨g, (eraseFirst_sublist _ _).subset hg, rfl⟩
  exact hshorter.of_subset (List.Subset.refl _) fun r hr => ⟨r, List.mem_of_mem_filter hr, rfl⟩

theorem withoutRelationship (h : ids.Issued s) (id : RelationshipId) :
    ids.Issued (s.withoutRelationship id) :=
  h.of_subset (List.Subset.refl _) fun r hr => ⟨r, (eraseFirst_sublist _ _).subset hr, rfl⟩

theorem withCardinality (h : ids.Issued s) (id : RelationshipId) (cardinality : Cardinality) :
    ids.Issued (s.withCardinality id cardinality) := by
  refine h.of_subset (List.Subset.refl _) fun r hr => ?_
  rcases mem_updateFirst hr with hold | ⟨r, hold, rfl⟩
  · exact ⟨r, hold, rfl⟩
  · exact ⟨r, hold, rfl⟩

theorem appendField (h : ids.Issued s) (entity : EntityId) {field : Field}
    (hfield : field.id = ids.field) :
    ids.afterField.Issued
      (s.updateEntity entity fun e => { e with fields := e.fields ++ [field] }) := by
  have hlater : ids.afterField.Issued s := h.later le_rfl (Nat.le_succ _) le_rfl
  refine hlater.updateEntity entity (fun _ => rfl) fun e _ g hg => ?_
  rcases List.mem_append.1 hg with hold | hnew
  · exact Or.inl ⟨g, hold, rfl⟩
  · obtain rfl := List.mem_singleton.1 hnew
    exact Or.inr ⟨ids, Nat.lt_succ_self _, hfield⟩

theorem putField (h : ids.Issued s) (entity : EntityId) (field : Field) :
    ids.Issued (s.updateEntity entity fun e => e.updateField field.id fun _ => field) := by
  refine h.updateEntity entity (fun _ => rfl) fun e _ g hg => Or.inl ?_
  rcases mem_updateFirst_of_match hg with hold | ⟨g', hold, hid, rfl⟩
  · exact ⟨g, hold, rfl⟩
  · exact ⟨g', hold, (beq_iff_eq.1 hid).symm⟩

end Issued

end IdSupply

namespace Operation

variable {s : Schema} {ids : IdSupply}

/-- The supply that an operation leaves has given out the ids in the schema that it leads to. -/
theorem issued_of_perform (h : ids.Issued s) {op : Operation} {p : Performed}
    (hp : op.perform s ids = .ok p) : p.ids.Issued p.schema := by
  cases Transition.of_perform hp with
  | addEntity | addEntityNamed _ _ => exact h.pushNew _
  | deleteEntity _ => exact (h.withoutEntity _).syncForeignKeys
  | renameEntity _ _ _ =>
      refine IdSupply.Issued.syncForeignKeys ?_
      exact h.updateEntity _ (fun _ => rfl) fun e _ g hg => Or.inl ⟨g, hg, rfl⟩
  | moveEntity _ => exact h.updateEntity _ (fun _ => rfl) fun e _ g hg => Or.inl ⟨g, hg, rfl⟩
  | addField _ _ _ => exact (h.appendField _ rfl).syncForeignKeys
  | @replaceField entity id field _ stored _ _ _ _ _ =>
      exact (h.putField entity { field with id, name := stored }).syncForeignKeys
  | deleteField _ _ _ => exact (h.withoutField _ _).syncForeignKeys
  | connect new _ _ _ => exact (h.pushRelationship new).syncForeignKeys
  | deleteRelationship _ => exact (h.withoutRelationship _).syncForeignKeys
  | setCardinality _ => exact h.withCardinality _ _

/-- The schema after operations one after the other, which take their ids from one supply. -/
def runFrom (s : Schema) (ids : IdSupply) : List Operation → Schema
  | [] => s
  | op :: rest =>
    match op.perform s ids with
    | .ok p => runFrom p.schema p.ids rest
    | .error _ => runFrom s ids rest

theorem edited_runFrom (hs : s.Edited) (hids : ids.Issued s) (ops : List Operation) :
    (runFrom s ids ops).Edited := by
  induction ops generalizing s ids with
  | nil => exact hs
  | cons op rest ih =>
      rw [runFrom]
      have hstep := hs.step op hids.fresh
      rw [schemaAfter] at hstep
      split
      · next p hp =>
        rw [hp] at hstep
        exact ih hstep (issued_of_perform hids hp)
      · exact ih hs hids

/-- A supply that starts with nothing given out never runs into an id that is in use. -/
theorem edited_run (ops : List Operation) : (runFrom {} {} ops).Edited :=
  edited_runFrom .empty .empty ops

end Operation

end EntityRelation
