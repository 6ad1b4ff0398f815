import EntityRelation.Proofs.Schema.ViewByPlace

/-!
# The foreign key view field by field

Where ids are distinct, recomputing the foreign key view changes every field by itself: it looks
for the first relationship whose child end the field is, and takes over the column that the
relationship runs from.
-/

namespace EntityRelation

namespace Schema

variable {s : Schema}

/-- The ids of entities differ, and so do the ids of the fields of an entity. -/
structure DistinctIds (s : Schema) : Prop where
  entities : (s.entities.map (·.id)).Nodup
  fields : ∀ e ∈ s.entities, (e.fields.map (·.id)).Nodup

/-- The schema with every field changed according to where it is. -/
def mapEnds (s : Schema) (g : Endpoint → Field → Field) : Schema :=
  { s with
    entities := s.entities.map fun e => { e with fields := e.fields.map fun f => g ⟨e.id, f.id⟩ f } }

/-- Where ids are distinct, a field is the only one at its end. -/
theorem DistinctIds.place?_eq_some_iff (h : s.DistinctIds) {i j : Nat} {e : Entity} {f : Field}
    (he : s.entities[i]? = some e) (hf : e.fields[j]? = some f) {p : Endpoint} :
    s.place? p = some (i, j) ↔ p = ⟨e.id, f.id⟩ := by
  rw [Schema.place?_eq_some_iff, findIdx?_key_eq_some_iff h.entities he]
  constructor
  · rintro ⟨hentity, e', he', hj⟩
    obtain rfl := Option.some.inj (he.symm.trans he')
    rw [findIdx?_key_eq_some_iff (h.fields e (List.mem_of_getElem? he)) hf] at hj
    exact congrArg₂ Endpoint.mk hentity.symm hj.symm
  · rintro rfl
    exact ⟨rfl, e, he, (findIdx?_key_eq_some_iff (h.fields e (List.mem_of_getElem? he)) hf).2 rfl⟩

/-- The column that a field references, by the first relationship that it is the child end of. -/
def view (s : Schema) (p : Endpoint) : Option ColumnName :=
  (s.references.find? (·.1 == p)).map (·.2)

/-- Recomputing the view changes every field by itself. -/
theorem syncForeignKeys_eq (h : s.DistinctIds) :
    s.syncForeignKeys = s.mapEnds fun p f => viewField (s.view p) f := by
  rw [syncForeignKeys_eq_mapPlaces]
  refine ext_of (List.ext_getElem? fun i => ?_) rfl
  rw [mapPlaces, mapEnds, List.getElem?_mapIdx, List.getElem?_map]
  refine Option.map_congr fun e he => ?_
  congr 1
  refine List.ext_getElem? fun j => ?_
  rw [List.getElem?_mapIdx, List.getElem?_map]
  refine Option.map_congr fun f hf => ?_
  have hsame : ∀ claim : Endpoint × ColumnName,
      (s.place? claim.1 == some (i, j)) = (claim.1 == ⟨e.id, f.id⟩) := fun claim => by
    rw [Bool.eq_iff_iff, beq_iff_eq, beq_iff_eq, h.place?_eq_some_iff he hf]
  rw [viewAt, view]
  simp only [hsame]

/-- The view is up to date just when every field says what its end says. -/
theorem syncForeignKeys_eq_self_iff (h : s.DistinctIds) :
    s.syncForeignKeys = s ↔
      ∀ e ∈ s.entities, ∀ f ∈ e.fields, viewField (s.view ⟨e.id, f.id⟩) f = f := by
  rw [syncForeignKeys_eq h]
  constructor
  · intro heq e he f hf
    have hentities := (congrArg Schema.entities heq).trans (List.map_id s.entities).symm
    have hentity := congrArg Entity.fields (List.map_inj_left.1 hentities e he)
    exact List.map_inj_left.1 (hentity.trans (List.map_id e.fields).symm) f hf
  · intro heq
    refine ext_of ((List.map_congr_left fun e he => ?_).trans (List.map_id _)) rfl
    have hfields := (List.map_congr_left (heq e he)).trans (List.map_id' e.fields)
    rw [hfields]
    rfl

/-- Where the view is up to date, the flag of a field says whether it has a view. -/
theorem Synced.isForeignKey_eq (hs : s.Synced) (h : s.DistinctIds) {e : Entity}
    (he : e ∈ s.entities) {f : Field} (hf : f ∈ e.fields) :
    f.isForeignKey = (s.view ⟨e.id, f.id⟩).isSome :=
  (viewField_eq_self_iff.1 ((syncForeignKeys_eq_self_iff h).1 hs e he f hf)).1

/-- A field has a view if and only if a relationship ends at it. -/
theorem view_isSome_iff {p : Endpoint} : (s.view p).isSome = true ↔
    ∃ r ∈ s.relationships, r.child = p ∧ (s.resolve? r).isSome = true := by
  rw [view, Option.isSome_map, List.find?_isSome]
  constructor
  · rintro ⟨claim, hclaim, hend⟩
    obtain ⟨r, hr, link, hlink, rfl⟩ := mem_references.1 hclaim
    exact ⟨r, hr, beq_iff_eq.1 hend, Option.isSome_of_eq_some hlink⟩
  · rintro ⟨r, hr, hend, hresolves⟩
    obtain ⟨link, hlink⟩ := Option.isSome_iff_exists.1 hresolves
    exact ⟨_, mem_references.2 ⟨r, hr, link, hlink, rfl⟩, beq_iff_eq.2 hend⟩

end Schema

end EntityRelation
