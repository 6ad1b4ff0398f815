import Mathlib.Data.List.Find
import EntityRelation.Proofs.Edit.Entity
import EntityRelation.Proofs.Edit.Field
import EntityRelation.Proofs.Schema.ViewByField

/-!
# Deletions cascade

With an entity go the relationships that touch it, and with a field those that bind it. Nothing
else goes, and nothing that stays changes, but for the foreign key view of the fields that a lost
relationship has pointed at (`Schema.Leaves`). What stays of the relationships resolves as before,
so the recomputed view differs from the old one in those fields only (`leaves_syncForeignKeys`).
-/

namespace EntityRelation

namespace Schema

/-- The column that a relationship runs from, if both its ends are in place. -/
def source? (s : Schema) (r : Relationship) : Option ColumnName :=
  (s.resolve? r).map fun link => ⟨link.parent.name, link.parentField.name⟩

/-- The field at an end after some relationships are lost: if one of them has pointed at it, it
references what the first of the others says that points at it. -/
def afterLoss (s : Schema) (lost : Relationship → Bool) (p : Endpoint) (f : Field) : Field :=
  if s.relationships.any (fun r => lost r && r.child == p) then
    viewField ((s.relationships.find? fun r => !lost r && r.child == p).bind s.source?) f
  else f

/-- The second schema has lost some relationships of the first one and keeps certain entities. -/
structure Leaves (s : Schema) (lost : Relationship → Bool) (kept : List Entity) (t : Schema) :
    Prop where
  relationships : t.relationships = s.relationships.filter fun r => !lost r
  entities : t.entities = kept.map fun e =>
    { e with fields := e.fields.map fun f => s.afterLoss lost ⟨e.id, f.id⟩ f }
  resolves : ∀ r ∈ t.relationships, (t.resolve? r).isSome = true

variable {s rest : Schema} {lost : Relationship → Bool}

/-- Where all relationships resolve, the first one that points at an end says what it references. -/
theorem view_eq_bind (h : ∀ r ∈ s.relationships, (s.resolve? r).isSome) (p : Endpoint) :
    s.view p = (s.relationships.find? (·.child == p)).bind s.source? := by
  have hfind : s.relationships.find? (fun r => (s.reference? r).any (·.1 == p)) =
      s.relationships.find? (·.child == p) := by
    refine List.find?_congr fun r hr => ?_
    obtain ⟨link, hlink⟩ := Option.isSome_iff_exists.1 (h r hr)
    rw [reference?, hlink, Option.map_some, Option.any_some]
  rw [view, references, List.find?_filterMap, hfind, Option.map_bind]
  refine Option.bind_congr fun r _ => ?_
  rw [Function.comp_apply, reference?, source?, Option.map_map]
  rfl

/-- Recomputing the view after a loss changes the fields that a lost relationship has pointed at. -/
theorem leaves_syncForeignKeys (h : s.Closed) (hrest : rest.Referential)
    (hrelationships : rest.relationships = s.relationships.filter fun r => !lost r)
    (hsource : ∀ r ∈ rest.relationships, rest.source? r = s.source? r)
    (hfields : ∀ e ∈ rest.entities, ∀ f ∈ e.fields, ∃ e' ∈ s.entities, e'.id = e.id ∧ f ∈ e'.fields) :
    s.Leaves lost rest.entities rest.syncForeignKeys := by
  have hview : ∀ p, rest.view p =
      (s.relationships.find? fun r => !lost r && r.child == p).bind s.source? := by
    intro p
    have hfirst : rest.relationships.find? (·.child == p) =
        s.relationships.find? fun r => !lost r && r.child == p := by
      rw [hrelationships, List.find?_filter]
      refine List.find?_congr fun r _ => ?_
      rw [Bool.decide_and, Bool.decide_eq_true, Bool.decide_eq_true]
    rw [view_eq_bind hrest.resolves, ← hfirst]
    exact Option.bind_congr fun r hr => hsource r (List.mem_of_find?_eq_some hr)
  have hkept : ∀ e ∈ rest.entities, ∀ f ∈ e.fields,
      viewField (rest.view ⟨e.id, f.id⟩) f = s.afterLoss lost ⟨e.id, f.id⟩ f := by
    intro e he f hf
    rw [afterLoss, hview]
    split
    · rfl
    · next hnone =>
      -- No lost relationship has pointed here, so the first one that does is the same as before.
      have hsame : (s.relationships.find? fun r => !lost r && r.child == ⟨e.id, f.id⟩) =
          s.relationships.find? (·.child == ⟨e.id, f.id⟩) := by
        refine List.find?_congr fun r hr => ?_
        have hother := List.any_eq_false.1 (Bool.eq_false_iff.2 hnone) r hr
        cases hlost : lost r with
        | false => rfl
        | true => simpa [hlost] using hother
      obtain ⟨e', he', hid, hf'⟩ := hfields e he f hf
      have hsynced := (syncForeignKeys_eq_self_iff ⟨h.entityIds, h.fieldIds⟩).1 h.synced e' he' f hf'
      rw [hsame, ← view_eq_bind h.resolves, ← hid]
      exact hsynced
  constructor
  · rw [relationships_syncForeignKeys, hrelationships]
  · rw [syncForeignKeys_eq ⟨hrest.entityIds, hrest.fieldIds⟩, mapEnds]
    refine List.map_congr_left fun e he => ?_
    rw [List.map_congr_left (hkept e he)]
  · exact hrest.syncForeignKeys.resolves

/-! ## Deleting an entity -/

theorem deleteEntity_eq {id : EntityId} {e : Entity} (he : s.entity? id = some e) :
    s.deleteEntity id = .ok (e, (s.withoutEntity id).syncForeignKeys) := by
  rw [deleteEntity, entityOrReject, he]
  rfl

/-- What does not touch an entity runs from the same column without it. -/
theorem source?_withoutEntity {id : EntityId} {r : Relationship} (h : r.touches id = false) :
    (s.withoutEntity id).source? r = s.source? r := by
  have hne : r.parent.entity ≠ id ∧ r.child.entity ≠ id := by
    simpa [Relationship.touches] using h
  have hend : ∀ p : Endpoint, p.entity ≠ id →
      (s.withoutEntity id).endpoint? p = s.endpoint? p := by
    intro p hp
    have hentity : (s.withoutEntity id).entity? p.entity = s.entity? p.entity :=
      find?_eraseFirst_key_of_ne hp s.entities
    rw [endpoint?, hentity, endpoint?]
  rw [source?, source?, resolve?, resolve?, hend _ hne.1, hend _ hne.2]

theorem leaves_withoutEntity (h : s.Closed) (id : EntityId) :
    s.Leaves (·.touches id) (s.entities.filter (·.id != id)) (s.withoutEntity id).syncForeignKeys := by
  have hentities : (s.withoutEntity id).entities = s.entities.filter (·.id != id) :=
    eraseFirst_key_eq_filter h.entityIds id
  rw [← hentities]
  refine leaves_syncForeignKeys h (h.toReferential.withoutEntity id) rfl (fun r hr => ?_) ?_
  · exact source?_withoutEntity (by simpa using (List.mem_filter.1 hr).2)
  · intro e he f hf
    exact ⟨e, (eraseFirst_sublist _ _).subset he, rfl, hf⟩

/-! ## Deleting a field -/

theorem deleteField_eq {entity : EntityId} {id : FieldId} {e : Entity} {f : Field}
    (he : s.entity? entity = some e) (hf : e.field? id = some f) (hlen : e.fields.length ≠ 1) :
    s.deleteField entity id = .ok (f, (s.withoutField entity id).syncForeignKeys) := by
  rw [deleteField, entityOrReject, he]
  simp only [bind, Except.bind, hf, if_neg hlen]
  rfl

/-- The column at an end that is not the lost field has the same name without it. -/
theorem endpoint?_withoutField {entity : EntityId} {id : FieldId} {p : Endpoint}
    (h : p ≠ ⟨entity, id⟩) :
    ((s.withoutField entity id).endpoint? p).map (fun (e, f) => (⟨e.name, f.name⟩ : ColumnName)) =
      (s.endpoint? p).map fun (e, f) => ⟨e.name, f.name⟩ := by
  have hid : ∀ e : Entity,
      Entity.id { e with fields := eraseFirst (·.id == id) e.fields } = e.id := fun _ => rfl
  have hentity : (s.withoutField entity id).entity? p.entity =
      if p.entity = entity then
        (s.entity? p.entity).map fun e => { e with fields := eraseFirst (·.id == id) e.fields }
      else s.entity? p.entity :=
    entity?_updateEntity hid p.entity
  rw [endpoint?, hentity, endpoint?]
  cases s.entity? p.entity with
  | none => simp
  | some e =>
      split
      · next hp =>
        have hfield : p.field ≠ id := fun hid => h (by rw [← hp, ← hid])
        have hsame : Entity.field? { e with fields := eraseFirst (·.id == id) e.fields } p.field =
            e.field? p.field := find?_eraseFirst_key_of_ne hfield e.fields
        simp only [Option.map_some, bind, Option.bind_some, hsame]
        cases e.field? p.field with
        | none => rfl
        | some f => rfl
      · rfl

theorem source?_eq (s : Schema) (r : Relationship) :
    s.source? r = ((s.endpoint? r.child).map fun (e, f) => (⟨e.name, f.name⟩ : ColumnName)).bind
      fun _ => (s.endpoint? r.parent).map fun (e, f) => ⟨e.name, f.name⟩ := by
  rw [source?, resolve?]
  cases s.endpoint? r.parent with
  | none => cases s.endpoint? r.child <;> rfl
  | some parent => cases s.endpoint? r.child <;> rfl

/-- What does not bind a field runs from the same column without it. -/
theorem source?_withoutField {entity : EntityId} {id : FieldId} {r : Relationship}
    (h : r.binds entity id = false) : (s.withoutField entity id).source? r = s.source? r := by
  have hne : r.parent ≠ ⟨entity, id⟩ ∧ r.child ≠ ⟨entity, id⟩ := by
    simpa [Relationship.binds] using h
  rw [source?_eq, source?_eq, endpoint?_withoutField hne.1, endpoint?_withoutField hne.2]

theorem leaves_withoutField (h : s.Closed) (entity : EntityId) (id : FieldId) :
    s.Leaves (·.binds entity id)
      (s.entities.map fun e =>
        if e.id == entity then { e with fields := e.fields.filter (·.id != id) } else e)
      (s.withoutField entity id).syncForeignKeys := by
  have hentities : (s.withoutField entity id).entities = s.entities.map fun e =>
      if e.id == entity then { e with fields := e.fields.filter (·.id != id) } else e := by
    rw [withoutField, updateEntity_entities h.toReferential]
    refine List.map_congr_left fun e he => ?_
    rw [eraseFirst_key_eq_filter (h.fieldIds e he)]
    rfl
  rw [← hentities]
  refine leaves_syncForeignKeys h (h.toReferential.withoutField entity id) rfl (fun r hr => ?_) ?_
  · exact source?_withoutField (by simpa using (List.mem_filter.1 hr).2)
  · intro e he f hf
    obtain ⟨e', he', hid, -, hsub, -⟩ := mem_withoutField h.toReferential he
    exact ⟨e', he', hid.symm, hsub.subset hf⟩

/-- A deletion takes away what it names and the relationships that need it. Everything else stays
as it is and where it is, but a field that a lost relationship has pointed at references what the
first of the other relationships says. -/
theorem deletions_cascade (h : s.Closed) :
    (∀ e ∈ s.entities, ∃ t, s.deleteEntity e.id = .ok (e, t) ∧
      s.Leaves (·.touches e.id) (s.entities.filter (·.id != e.id)) t) ∧
    ∀ e ∈ s.entities, ∀ f ∈ e.fields, (∃ g ∈ e.fields, g ≠ f) →
      ∃ t, s.deleteField e.id f.id = .ok (f, t) ∧
        s.Leaves (·.binds e.id f.id)
          (s.entities.map fun e' =>
            if e'.id == e.id then { e' with fields := e'.fields.filter (·.id != f.id) } else e') t := by
  refine ⟨fun e he => ?_, fun e he f hf ⟨g, hg, hother⟩ => ?_⟩
  · exact ⟨_, deleteEntity_eq (entity?_eq_some h.entityIds he), leaves_withoutEntity h e.id⟩
  · have hlen : e.fields.length ≠ 1 := by
      intro hone
      obtain ⟨only, honly⟩ := List.length_eq_one_iff.1 hone
      rw [honly] at hf hg
      exact hother ((List.mem_singleton.1 hg).trans (List.mem_singleton.1 hf).symm)
    exact ⟨_, deleteField_eq (entity?_eq_some h.entityIds he)
      (Entity.field?_eq_some (h.fieldIds e he) hf) hlen, leaves_withoutField h e.id f.id⟩

/-- Staff with a manager and a mentor, and one column that two relationships point at. -/
def staff : Schema where
  entities :=
    [{ id := ⟨"e1"⟩
       name := "teams"
       fields := [{ id := ⟨"f1"⟩, name := "id", dataType := "SERIAL", isPrimaryKey := true },
         { id := ⟨"f2"⟩, name := "code", dataType := "INT", isUnique := true }]
       position := .origin },
     { id := ⟨"e2"⟩
       name := "people"
       fields := [{ id := ⟨"f1"⟩, name := "id", dataType := "SERIAL", isPrimaryKey := true },
         { id := ⟨"f2"⟩, name := "team", dataType := "INT" },
         { id := ⟨"f3"⟩, name := "manager", dataType := "INT" }]
       position := .origin }]
  relationships :=
    [⟨⟨"r1"⟩, ⟨⟨"e1"⟩, ⟨"f2"⟩⟩, ⟨⟨"e2"⟩, ⟨"f2"⟩⟩, .oneToMany⟩,
      ⟨⟨"r2"⟩, ⟨⟨"e1"⟩, ⟨"f1"⟩⟩, ⟨⟨"e2"⟩, ⟨"f2"⟩⟩, .oneToMany⟩,
      ⟨⟨"r3"⟩, ⟨⟨"e2"⟩, ⟨"f1"⟩⟩, ⟨⟨"e2"⟩, ⟨"f3"⟩⟩, .oneToMany⟩]

theorem referential_staff : staff.Referential :=
  ⟨by decide, by decide, by decide, by decide⟩

/-- Without the code of a team, its people reference the team by the other relationship. -/
theorem deletions_cascade_staff :
    staff.syncForeignKeys.Closed ∧
      (∃ e t, staff.syncForeignKeys.deleteEntity ⟨"e1"⟩ = .ok (e, t) ∧
        t.relationships.map (·.id.text) = ["r3"] ∧
        t.entities.map (·.fields.map (·.references)) =
          [[none, none, some ⟨"people", "id"⟩]]) ∧
      ∃ f t, staff.syncForeignKeys.deleteField ⟨"e1"⟩ ⟨"f2"⟩ = .ok (f, t) ∧
        t.relationships.map (·.id.text) = ["r2", "r3"] ∧
        t.entities.map (·.fields.map (·.references)) =
          [[none], [none, some ⟨"teams", "id"⟩, some ⟨"people", "id"⟩]] := by
  have hclosed : staff.syncForeignKeys.Closed :=
    { referential_staff.syncForeignKeys with synced := staff.synced_syncForeignKeys }
  obtain ⟨hentity, hfield⟩ := deletions_cascade hclosed
  have hteams := List.get_mem staff.syncForeignKeys.entities ⟨0, by decide⟩
  have hcode := List.get_mem (staff.syncForeignKeys.entities.get ⟨0, by decide⟩).fields
    ⟨1, by decide⟩
  refine ⟨hclosed, ?_, ?_⟩
  · obtain ⟨t, ht, hleaves⟩ := hentity _ hteams
    refine ⟨_, t, ht, ?_, ?_⟩
    · rw [hleaves.relationships]
      decide
    · rw [hleaves.entities]
      decide
  · have hid := List.get_mem (staff.syncForeignKeys.entities.get ⟨0, by decide⟩).fields
      ⟨0, by decide⟩
    obtain ⟨t, ht, hleaves⟩ := hfield _ hteams _ hcode ⟨_, hid, by decide⟩
    refine ⟨_, t, ht, ?_, ?_⟩
    · rw [hleaves.relationships]
      decide
    · rw [hleaves.entities]
      decide

end Schema

end EntityRelation
