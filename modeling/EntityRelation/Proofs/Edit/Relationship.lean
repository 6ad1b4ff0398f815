import EntityRelation.Proofs.Edit.Preservation
import EntityRelation.Proofs.Schema.Placement

/-!
# Editing relationships

A new relationship runs between ends that exist and that no other relationship joins. Its
cardinality is not part of the foreign key view, so a change of cardinality needs no recomputation
(`Synced.withCardinality`).
-/

namespace EntityRelation

namespace Schema

variable {s t : Schema}

/-! ## Connecting two fields -/

theorem connectionEnd_eq_ok {entity : EntityId} {field : Option FieldId} {p : Endpoint}
    (h : s.connectionEnd entity field = .ok p) : (s.endpoint? p).isSome := by
  obtain ⟨e, he, h⟩ := exists_of_bind_eq_ok h
  have hfind := entityOrReject_eq_ok he
  cases field with
  | some id =>
      dsimp only at h
      split at h
      · next hsome =>
          obtain rfl := Except.ok.inj h
          exact (endpoint?_isSome_iff _).2 ⟨e, hfind, hsome⟩
      · cases h
  | none =>
      dsimp only at h
      split at h
      · next f hf =>
          obtain rfl := Except.ok.inj h
          exact (endpoint?_isSome_iff _).2 ⟨e, hfind,
            Entity.field?_isSome_iff.2 ⟨f, List.mem_of_find?_eq_some hf, rfl⟩⟩
      · cases h

/-- The schema with a relationship appended. -/
def pushRelationship (s : Schema) (r : Relationship) : Schema :=
  { s with relationships := s.relationships ++ [r] }

theorem connect_eq_ok {c : Connection} {id : RelationshipId} (h : s.connect c id = .ok t) :
    ∃ r : Relationship, r.id = id ∧ (s.endpoint? r.parent).isSome ∧ (s.endpoint? r.child).isSome ∧
      s.joins r.parent r.child = false ∧ t = (s.pushRelationship r).syncForeignKeys := by
  obtain ⟨p, hp, h⟩ := exists_of_bind_eq_ok h
  obtain ⟨q, hq, h⟩ := exists_of_bind_eq_ok h
  dsimp only at h
  split at h
  · cases h
  · next hfree =>
      exact ⟨⟨id, p, q, c.cardinality.getD .standard⟩, rfl, connectionEnd_eq_ok hp,
        connectionEnd_eq_ok hq, Bool.eq_false_iff.2 hfree, (Except.ok.inj h).symm⟩

theorem Referential.pushRelationship (h : s.Referential) {r : Relationship}
    (hfresh : ∀ r' ∈ s.relationships, r'.id ≠ r.id) (hp : (s.endpoint? r.parent).isSome)
    (hc : (s.endpoint? r.child).isSome) : (s.pushRelationship r).Referential := by
  refine ⟨h.entityIds, h.fieldIds, ?_, fun r' hr' => ?_⟩
  · simp only [Schema.pushRelationship, List.map_append, List.map_cons, List.map_nil]
    refine h.relationshipIds.append (List.nodup_singleton _) ?_
    intro id hold hnew
    obtain ⟨r', hr', rfl⟩ := List.mem_map.1 hold
    exact hfresh r' hr' (List.mem_singleton.1 hnew)
  · rcases List.mem_append.1 hr' with hold | hnew
    · exact h.resolves r' hold
    · obtain rfl := List.mem_singleton.1 hnew
      exact (resolve?_isSome_iff r').2 ⟨hp, hc⟩

theorem Named.pushRelationship (h : s.Named) {r : Relationship}
    (hfree : s.joins r.parent r.child = false) : (s.pushRelationship r).Named := by
  refine ⟨h.fields, h.entityNames, h.entityNames_distinct, h.fieldNames, h.fieldNames_distinct, ?_⟩
  simp only [Schema.pushRelationship, List.map_append, List.map_cons, List.map_nil]
  refine h.links_distinct.append (List.nodup_singleton _) ?_
  intro link hold hnew
  obtain ⟨r', hr', rfl⟩ := List.mem_map.1 hold
  have hsame := Prod.mk.inj (List.mem_singleton.1 hnew)
  exact List.any_eq_false.1 hfree r' hr' (by simp [hsame.1, hsame.2])

/-! ## Deleting a relationship -/

/-- The schema without the first relationship of an id. -/
def withoutRelationship (s : Schema) (id : RelationshipId) : Schema :=
  { s with relationships := eraseFirst (·.id == id) s.relationships }

theorem deleteRelationship_eq_ok {id : RelationshipId} {r : Relationship}
    (h : s.deleteRelationship id = .ok (r, t)) :
    s.relationship? id = some r ∧ t = (s.withoutRelationship id).syncForeignKeys := by
  simp only [deleteRelationship] at h
  split at h
  · cases h
  · next hr =>
    obtain ⟨rfl, rfl⟩ := Prod.mk.inj (Except.ok.inj h)
    exact ⟨hr, rfl⟩

theorem Referential.withoutRelationship (h : s.Referential) (id : RelationshipId) :
    (s.withoutRelationship id).Referential := by
  have hsub : (s.withoutRelationship id).relationships.Sublist s.relationships :=
    eraseFirst_sublist _ _
  exact ⟨h.entityIds, h.fieldIds, h.relationshipIds.sublist (hsub.map _),
    fun r hr => h.resolves r (hsub.subset hr)⟩

theorem Named.withoutRelationship (h : s.Named) (id : RelationshipId) :
    (s.withoutRelationship id).Named :=
  ⟨h.fields, h.entityNames, h.entityNames_distinct, h.fieldNames, h.fieldNames_distinct,
    h.links_distinct.sublist ((eraseFirst_sublist _ _).map _)⟩

/-! ## Changing a cardinality -/

/-- The schema with the cardinality of the first relationship of an id changed. -/
def withCardinality (s : Schema) (id : RelationshipId) (cardinality : Cardinality) : Schema :=
  { s with
    relationships := updateFirst (·.id == id) (fun r => { r with cardinality }) s.relationships }

theorem setCardinality_eq_ok {id : RelationshipId} {cardinality : Cardinality}
    (h : s.setCardinality id cardinality = .ok t) : t = s.withCardinality id cardinality := by
  simp only [setCardinality] at h
  split at h
  · cases h
  · exact (Except.ok.inj h).symm

theorem exists_relationship?_of_setCardinality {id : RelationshipId} {cardinality : Cardinality}
    (h : s.setCardinality id cardinality = .ok t) : ∃ r, s.relationship? id = some r := by
  cases hr : s.relationship? id with
  | some r => exact ⟨r, rfl⟩
  | none =>
      rw [setCardinality, hr] at h
      cases h

theorem map_withCardinality {β : Type} (g : Relationship → β) (id : RelationshipId)
    (cardinality : Cardinality) (h : ∀ r : Relationship, g { r with cardinality } = g r) :
    (s.withCardinality id cardinality).relationships.map g = s.relationships.map g :=
  map_updateFirst _ _ g h s.relationships

theorem references_withCardinality (s : Schema) (id : RelationshipId) (cardinality : Cardinality) :
    (s.withCardinality id cardinality).references = s.references :=
  filterMap_updateFirst (fun r : Relationship => r.id == id) (fun r => { r with cardinality })
    s.reference? (fun _ => rfl) s.relationships

/-- Recomputing the view looks at the relationships only for what they say about foreign keys. -/
theorem entities_foldl_markReference {s t : Schema} (h : s.entities = t.entities)
    (claims : List (Endpoint × ColumnName)) :
    (claims.foldl markReference s).entities = (claims.foldl markReference t).entities := by
  induction claims generalizing s t with
  | nil => exact h
  | cons claim claims ih =>
      refine ih ?_
      simp only [markReference, updateEntity, h]

theorem Synced.withCardinality (h : s.Synced) (id : RelationshipId) (cardinality : Cardinality) :
    (s.withCardinality id cardinality).Synced := by
  refine ext_of ?_ (relationships_syncForeignKeys _)
  rw [syncForeignKeys, references_withCardinality]
  have hsame : (s.withCardinality id cardinality).bare.entities = s.bare.entities := rfl
  calc (s.references.foldl markReference (s.withCardinality id cardinality).bare).entities
      = (s.references.foldl markReference s.bare).entities :=
        entities_foldl_markReference hsame s.references
    _ = s.entities := congrArg entities h

theorem Referential.withCardinality (h : s.Referential) (id : RelationshipId)
    (cardinality : Cardinality) : (s.withCardinality id cardinality).Referential := by
  refine ⟨h.entityIds, h.fieldIds, ?_, fun r hr => ?_⟩
  · rw [map_withCardinality (·.id) id cardinality fun _ => rfl]
    exact h.relationshipIds
  · rcases mem_updateFirst hr with hold | ⟨r, hold, rfl⟩
    · exact h.resolves r hold
    · exact h.resolves r hold

theorem Named.withCardinality (h : s.Named) (id : RelationshipId) (cardinality : Cardinality) :
    (s.withCardinality id cardinality).Named := by
  refine ⟨h.fields, h.entityNames, h.entityNames_distinct, h.fieldNames, h.fieldNames_distinct, ?_⟩
  rw [map_withCardinality (fun r => (r.parent, r.child)) id cardinality fun _ => rfl]
  exact h.links_distinct

end Schema

end EntityRelation
