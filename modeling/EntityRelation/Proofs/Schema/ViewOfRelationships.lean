import EntityRelation.Proofs.Schema.ViewByPlace

/-!
# What the relationships say about foreign keys

A relationship with both ends in place targets one field: the first one with the id of its child
end, in the first entity with the id of that end (`Schema.Targets`). Of the relationships that
target a field the first one counts, and the field references the column that this relationship
runs from (`Schema.IsSource`). Recomputing the foreign key view writes this and nothing else, in
any schema: ids may repeat, ends may dangle, and the view that is there may be stale
(`syncForeignKeys_exact`).
-/

namespace EntityRelation

namespace Schema

/-- Both ends of the relationship are in place, and its child end stands for the field at a place. -/
structure Targets (s : Schema) (r : Relationship) (i j : Nat) : Prop where
  resolves : (s.resolve? r).isSome = true
  entity : s.entities.findIdx? (·.id == r.child.entity) = some i
  field : ∃ e, s.entities[i]? = some e ∧ e.fields.findIdx? (·.id == r.child.field) = some j

/-- The first relationship that targets the field at a place runs from a column of this name. -/
def IsSource (s : Schema) (i j : Nat) (source : ColumnName) : Prop :=
  ∃ before r after link, s.relationships = before ++ r :: after ∧
    (∀ r' ∈ before, ¬s.Targets r' i j) ∧ s.Targets r i j ∧ s.resolve? r = some link ∧
    source = ⟨link.parent.name, link.parentField.name⟩

/-- The second schema is the first one with the foreign key view that its relationships define. -/
structure ViewedAs (s t : Schema) : Prop where
  /-- Ids, names, types, the other flags, default values, places, the order of everything and the
  relationships are the same. -/
  rest : t.bare = s.bare
  isForeignKey : ∀ i e, t.entities[i]? = some e → ∀ j f, e.fields[j]? = some f →
    (f.isForeignKey = true ↔ ∃ r ∈ s.relationships, s.Targets r i j)
  references : ∀ i e, t.entities[i]? = some e → ∀ j f, e.fields[j]? = some f →
    ∀ source, f.references = some source ↔ s.IsSource i j source

variable {s : Schema} {r : Relationship} {i j : Nat}

/-- What a relationship says is about the field that it targets. -/
theorem targets_iff :
    (s.reference? r).any (fun claim => s.place? claim.1 == some (i, j)) = true ↔
      s.Targets r i j := by
  rw [reference?]
  cases hlink : s.resolve? r with
  | none =>
      constructor
      · intro h
        cases h
      · rintro ⟨hresolves, -, -⟩
        rw [hlink] at hresolves
        cases hresolves
  | some link =>
      rw [Option.map_some, Option.any_some, beq_iff_eq, place?_eq_some_iff]
      constructor
      · rintro ⟨hentity, hfield⟩
        exact ⟨by rw [hlink]; rfl, hentity, hfield⟩
      · rintro ⟨-, hentity, hfield⟩
        exact ⟨hentity, hfield⟩

theorem find?_references :
    s.references.find? (fun claim => s.place? claim.1 == some (i, j)) =
      (s.relationships.find? fun r => (s.reference? r).any fun claim =>
        s.place? claim.1 == some (i, j)).bind s.reference? := by
  rw [references, List.find?_filterMap]

theorem viewAt_isSome_iff :
    (s.viewAt i j).isSome = true ↔ ∃ r ∈ s.relationships, s.Targets r i j := by
  rw [viewAt, Option.isSome_map, List.find?_isSome]
  constructor
  · rintro ⟨claim, hclaim, hplace⟩
    obtain ⟨r, hr, hreference⟩ := List.mem_filterMap.1 hclaim
    exact ⟨r, hr, targets_iff.1 (by rw [hreference]; exact hplace)⟩
  · rintro ⟨r, hr, htargets⟩
    obtain ⟨claim, hreference, hplace⟩ := (Option.any_eq_true _ _).1 (targets_iff.2 htargets)
    exact ⟨claim, List.mem_filterMap.2 ⟨r, hr, hreference⟩, hplace⟩

theorem viewAt_eq_some_iff {source : ColumnName} :
    s.viewAt i j = some source ↔ s.IsSource i j source := by
  rw [viewAt, find?_references, Option.map_eq_some_iff]
  constructor
  · rintro ⟨claim, hclaim, rfl⟩
    obtain ⟨r, hfind, hreference⟩ := Option.bind_eq_some_iff.1 hclaim
    obtain ⟨htargets, before, after, hsplit, hbefore⟩ := List.find?_eq_some_iff_append.1 hfind
    obtain ⟨link, hlink, rfl⟩ := Option.map_eq_some_iff.1 hreference
    refine ⟨before, r, after, link, hsplit, fun r' hr' h => ?_, targets_iff.1 htargets, hlink, rfl⟩
    have hnot := hbefore r' hr'
    rw [targets_iff.2 h] at hnot
    cases hnot
  · rintro ⟨before, r, after, link, hsplit, hbefore, htargets, hlink, rfl⟩
    refine ⟨(r.child, ⟨link.parent.name, link.parentField.name⟩), ?_, rfl⟩
    refine Option.bind_eq_some_iff.2 ⟨r, List.find?_eq_some_iff_append.2
      ⟨targets_iff.2 htargets, before, after, hsplit, fun r' hr' => ?_⟩, ?_⟩
    · rw [Bool.not_eq_true', ← Bool.not_eq_true, targets_iff]
      exact hbefore r' hr'
    · rw [reference?, hlink, Option.map_some]

/-- Every field of a recomputed view stands at its old place, with what the relationships say. -/
theorem viewField_of_syncForeignKeys {e : Entity} {f : Field}
    (he : s.syncForeignKeys.entities[i]? = some e) (hf : e.fields[j]? = some f) :
    f.isForeignKey = (s.viewAt i j).isSome ∧ f.references = s.viewAt i j := by
  rw [syncForeignKeys_eq_mapPlaces, mapPlaces, List.getElem?_mapIdx, Option.map_eq_some_iff] at he
  obtain ⟨e, -, rfl⟩ := he
  rw [List.getElem?_mapIdx, Option.map_eq_some_iff] at hf
  obtain ⟨f, -, rfl⟩ := hf
  exact ⟨rfl, rfl⟩

/-- Recomputing the foreign key view gives exactly the view that the relationships define, changes
nothing else, and is done once. -/
theorem syncForeignKeys_exact (s : Schema) :
    s.ViewedAs s.syncForeignKeys ∧ s.syncForeignKeys.syncForeignKeys = s.syncForeignKeys := by
  refine ⟨⟨s.bare_syncForeignKeys, fun i e he j f hf => ?_, fun i e he j f hf source => ?_⟩,
    s.syncForeignKeys_idem⟩
  · rw [(viewField_of_syncForeignKeys he hf).1, viewAt_isSome_iff]
  · rw [(viewField_of_syncForeignKeys he hf).2, viewAt_eq_some_iff]

end Schema

end EntityRelation
