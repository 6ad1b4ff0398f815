import EntityRelation.Proofs.Schema.Lookup

/-!
# The foreign key view is a view

`Schema.bare` is a schema without its foreign key view. Recomputing the view changes nothing
else (`bare_syncForeignKeys`) and looks at nothing else (`syncForeignKeys_bare`), so it settles
after one time (`syncForeignKeys_idem`). A foreign key of a recomputed view references the parent
end of a relationship with both ends in place.
-/

namespace EntityRelation

namespace Field

@[simp] theorem clearReference_clearReference (f : Field) :
    f.clearReference.clearReference = f.clearReference := rfl

@[simp] theorem id_clearReference (f : Field) : f.clearReference.id = f.id := rfl

@[simp] theorem name_clearReference (f : Field) : f.clearReference.name = f.name := rfl

@[simp] theorem clearReference_markReference (target : ColumnName) (f : Field) :
    (f.markReference target).clearReference = f.clearReference := by
  unfold markReference
  split
  · rfl
  · rfl

@[simp] theorem id_markReference (target : ColumnName) (f : Field) :
    (f.markReference target).id = f.id := by
  unfold markReference
  split
  · rfl
  · rfl

end Field

/-- The entity without its foreign key view. -/
def Entity.bare (e : Entity) : Entity :=
  { e with fields := e.fields.map Field.clearReference }

namespace Entity

@[simp] theorem bare_id (e : Entity) : e.bare.id = e.id := rfl

@[simp] theorem bare_name (e : Entity) : e.bare.name = e.name := rfl

@[simp] theorem bare_fields (e : Entity) :
    e.bare.fields = e.fields.map Field.clearReference := rfl

@[simp] theorem bare_bare (e : Entity) : e.bare.bare = e.bare := by
  simp [bare, Function.comp_def]

theorem bare_updateField (e : Entity) (id : FieldId) (f : Field → Field)
    (hf : ∀ g, (f g).clearReference = g.clearReference) : (e.updateField id f).bare = e.bare := by
  simp [bare, updateField, map_updateFirst _ f Field.clearReference hf]

theorem field?_bare (e : Entity) (id : FieldId) :
    e.bare.field? id = (e.field? id).map Field.clearReference := by
  rw [field?, bare_fields, List.find?_map]
  rfl

end Entity

namespace Schema

/-- The schema without its foreign key view. -/
def bare (s : Schema) : Schema :=
  s.mapFields Field.clearReference

variable (s : Schema)

@[simp] theorem bare_entities : s.bare.entities = s.entities.map Entity.bare := rfl

@[simp] theorem bare_relationships : s.bare.relationships = s.relationships := rfl

theorem ext_of {s t : Schema} (he : s.entities = t.entities)
    (hr : s.relationships = t.relationships) : s = t := by
  obtain ⟨es, rs⟩ := s
  obtain ⟨es', rs'⟩ := t
  obtain rfl : es = es' := he
  obtain rfl : rs = rs' := hr
  rfl

@[simp] theorem bare_bare : s.bare.bare = s.bare :=
  ext_of (by simp [Function.comp_def]) rfl

theorem entity?_bare (id : EntityId) : s.bare.entity? id = (s.entity? id).map Entity.bare := by
  rw [entity?, bare_entities, List.find?_map]
  rfl

theorem endpoint?_bare (p : Endpoint) :
    s.bare.endpoint? p = (s.endpoint? p).map fun (e, f) => (e.bare, f.clearReference) := by
  simp only [endpoint?, entity?_bare]
  cases s.entity? p.entity with
  | none => rfl
  | some e =>
      simp only [Option.map_some, bind, Option.bind_some, Entity.field?_bare]
      cases e.field? p.field with
      | none => rfl
      | some f => rfl

theorem reference?_bare (r : Relationship) : s.bare.reference? r = s.reference? r := by
  simp only [reference?, resolve?, endpoint?_bare]
  cases s.endpoint? r.parent with
  | none => rfl
  | some p =>
      cases s.endpoint? r.child with
      | none => rfl
      | some c => rfl

theorem references_bare : s.bare.references = s.references := by
  simp only [references, bare_relationships]
  exact List.filterMap_congr fun r _ => s.reference?_bare r

/-! ## Marking one field -/

@[simp] theorem relationships_markReference (claim : Endpoint × ColumnName) :
    (s.markReference claim).relationships = s.relationships := rfl

theorem bare_markReference (claim : Endpoint × ColumnName) :
    (s.markReference claim).bare = s.bare := by
  refine ext_of (map_updateFirst _ _ Entity.bare (fun e => ?_) s.entities) rfl
  exact e.bare_updateField _ _ fun g => Field.clearReference_markReference claim.2 g

theorem bare_foldl_markReference (claims : List (Endpoint × ColumnName)) :
    (claims.foldl markReference s).bare = s.bare := by
  induction claims generalizing s with
  | nil => rfl
  | cons claim claims ih => rw [List.foldl_cons, ih, bare_markReference]

/-! ## Recomputing the view -/

/-- Recomputing the view changes nothing but the view. -/
@[simp] theorem bare_syncForeignKeys : s.syncForeignKeys.bare = s.bare := by
  rw [syncForeignKeys, bare_foldl_markReference]
  exact s.bare_bare

@[simp] theorem relationships_syncForeignKeys :
    s.syncForeignKeys.relationships = s.relationships := by
  rw [← bare_relationships, bare_syncForeignKeys, bare_relationships]

/-- Recomputing the view looks at nothing but the rest. -/
theorem syncForeignKeys_bare : s.bare.syncForeignKeys = s.syncForeignKeys := by
  simp only [syncForeignKeys, references_bare]
  exact congrArg (s.references.foldl markReference) s.bare_bare

theorem syncForeignKeys_congr {s t : Schema} (h : s.bare = t.bare) :
    s.syncForeignKeys = t.syncForeignKeys := by
  rw [← syncForeignKeys_bare s, ← syncForeignKeys_bare t, h]

theorem syncForeignKeys_idem : s.syncForeignKeys.syncForeignKeys = s.syncForeignKeys :=
  syncForeignKeys_congr s.bare_syncForeignKeys

/-! ## What a foreign key references -/

/-- Every foreign key references one of some columns. -/
def ReferencesAmong (s : Schema) (columns : List ColumnName) : Prop :=
  ∀ e ∈ s.entities, ∀ f ∈ e.fields, f.isForeignKey → ∃ c ∈ columns, f.references = some c

theorem ReferencesAmong.markReference {s : Schema} {columns : List ColumnName}
    (h : s.ReferencesAmong columns) {claim : Endpoint × ColumnName} (hc : claim.2 ∈ columns) :
    (s.markReference claim).ReferencesAmong columns := by
  intro e he f hf hkey
  rcases mem_updateFirst he with hold | ⟨e, hold, rfl⟩
  · exact h e hold f hf hkey
  · rcases mem_updateFirst hf with hkept | ⟨f, hkept, rfl⟩
    · exact h e hold f hkept hkey
    · unfold Field.markReference at hkey ⊢
      split
      · next hforeign => exact h e hold f hkept hforeign
      · exact ⟨claim.2, hc, rfl⟩

/-- A foreign key of a recomputed view references what some relationship says. -/
theorem referencesAmong_syncForeignKeys :
    s.syncForeignKeys.ReferencesAmong (s.references.map (·.2)) := by
  have hmarks : ∀ (claims : List (Endpoint × ColumnName)) (t : Schema),
      t.ReferencesAmong (s.references.map (·.2)) → (∀ c ∈ claims, c ∈ s.references) →
      (claims.foldl Schema.markReference t).ReferencesAmong (s.references.map (·.2)) := by
    intro claims
    induction claims with
    | nil => exact fun t ht _ => ht
    | cons claim claims ih =>
        intro t ht hclaims
        refine ih _ (ht.markReference ?_) fun c hc => hclaims c (List.mem_cons_of_mem claim hc)
        exact List.mem_map_of_mem (hclaims claim List.mem_cons_self)
  refine hmarks s.references s.bare ?_ fun c hc => hc
  intro e he f hf hkey
  obtain ⟨e, -, rfl⟩ := List.mem_map.1 he
  obtain ⟨f, -, rfl⟩ := List.mem_map.1 hf
  simp [Field.clearReference] at hkey

theorem mem_references {s : Schema} {claim : Endpoint × ColumnName} :
    claim ∈ s.references ↔ ∃ r ∈ s.relationships, ∃ link, s.resolve? r = some link ∧
      claim = (r.child, ⟨link.parent.name, link.parentField.name⟩) := by
  simp only [references, List.mem_filterMap, reference?, Option.map_eq_some_iff]
  constructor
  · rintro ⟨r, hr, link, hlink, rfl⟩
    exact ⟨r, hr, link, hlink, rfl⟩
  · rintro ⟨r, hr, link, hlink, rfl⟩
    exact ⟨r, hr, link, hlink, rfl⟩

end Schema

end EntityRelation
