import EntityRelation.Proofs.Edit.Preservation
import EntityRelation.Proofs.Schema.Placement
import EntityRelation.Proofs.Text.Numeral
import Mathlib.Data.List.Perm.Subperm

/-!
# Editing entities

A new entity is bare and behind all the others, so the foreign key view needs no recomputation
(`Synced.pushEntity`). Its name is either free by the check, or the first free candidate: there is
one candidate more than there are tables, and no two of them are the same.
-/

namespace EntityRelation

namespace NewEntity

theorem foldAscii_candidate_injective :
    Function.Injective fun k => Text.foldAscii (candidate k) := by
  have hzero : ∀ k, Text.foldAscii (candidate 0) ≠ Text.foldAscii (candidate (k + 1)) := by
    intro k h
    have hlength := congrArg List.length h
    simp [candidate, baseName, Text.foldAscii] at hlength
  intro j k h
  cases j with
  | zero =>
      cases k with
      | zero => rfl
      | succ k => exact absurd h (hzero k)
  | succ j =>
      cases k with
      | zero => exact absurd h.symm (hzero j)
      | succ k => exact Nat.add_right_cancel (Text.foldAscii_numbered_injective _ h)

theorem isName_candidate (k : Nat) : IsName (candidate k) := by
  cases k with
  | zero => exact ⟨by decide, by decide⟩
  | succ k =>
      have hlist : (candidate (k + 1)).toList = "new_entity_".toList ++ (toString (k + 2)).toList :=
        by simp [candidate, baseName]
      have hdigits : (toString (k + 2)).toList ≠ [] := by
        simp [Nat.toString_eq_repr]
      have htrim : Text.trim (candidate (k + 1)).toList = (candidate (k + 1)).toList := by
        rw [Text.trim_eq_self_iff, hlist]
        constructor
        · intro c hc
          obtain rfl : 'n' = c := by simpa using hc
          decide
        · intro c hc
          rw [List.getLast?_append_of_ne_nil _ hdigits] at hc
          exact Text.isBlank_of_isDigit (Text.isDigit_of_mem_toString (List.mem_of_getLast? hc))
      refine ⟨?_, ?_⟩
      · rw [Text.trimmed, htrim, String.ofList_toList]
      · rw [← Bool.not_eq_true, String.isEmpty_iff, ← String.toList_inj, hlist]
        simp

end NewEntity

namespace Schema

variable {s t : Schema}

/-! ## Adding an entity -/

@[simp] theorem pushEntity_entities (s : Schema) (e : Entity) :
    (s.pushEntity e).entities = s.entities ++ [e] := rfl

@[simp] theorem pushEntity_relationships (s : Schema) (e : Entity) :
    (s.pushEntity e).relationships = s.relationships := rfl

theorem endpoint?_pushEntity (e : Entity) {p : Endpoint} (h : (s.endpoint? p).isSome) :
    (s.pushEntity e).endpoint? p = s.endpoint? p := by
  obtain ⟨⟨owner, f⟩, hend⟩ := Option.isSome_iff_exists.1 h
  obtain ⟨howner, hf⟩ := (endpoint?_eq_some_iff p).1 hend
  have hpush : (s.pushEntity e).entity? p.entity = some owner := by
    rw [entity?, pushEntity_entities, List.find?_append]
    rw [entity?] at howner
    rw [howner]
    rfl
  rw [hend, (endpoint?_eq_some_iff p).2 ⟨hpush, hf⟩]

theorem resolve?_pushEntity (e : Entity) {r : Relationship} (h : (s.resolve? r).isSome) :
    (s.pushEntity e).resolve? r = s.resolve? r := by
  obtain ⟨hp, hc⟩ := (resolve?_isSome_iff r).1 h
  simp only [resolve?, endpoint?_pushEntity e hp, endpoint?_pushEntity e hc]

theorem references_pushEntity (e : Entity) (h : ∀ r ∈ s.relationships, (s.resolve? r).isSome) :
    (s.pushEntity e).references = s.references := by
  refine List.filterMap_congr fun r hr => ?_
  simp only [reference?, resolve?_pushEntity e (h r hr)]

theorem map_id_markReference (s : Schema) (claim : Endpoint × ColumnName) :
    (s.markReference claim).entities.map (·.id) = s.entities.map (·.id) :=
  map_updateFirst (fun e : Entity => e.id == claim.1.entity)
    (fun e : Entity => e.updateField claim.1.field (·.markReference claim.2)) (·.id)
    (fun _ => rfl) s.entities

theorem foldl_markReference_pushEntity (e : Entity) (claims : List (Endpoint × ColumnName))
    (s : Schema) (h : ∀ c ∈ claims, c.1.entity ∈ s.entities.map (·.id)) :
    claims.foldl markReference (s.pushEntity e) =
      (claims.foldl markReference s).pushEntity e := by
  induction claims generalizing s with
  | nil => rfl
  | cons claim claims ih =>
      have hmark : (s.pushEntity e).markReference claim = (s.markReference claim).pushEntity e := by
        refine ext_of (updateFirst_append _ _ s.entities [e] ?_) rfl
        obtain ⟨owner, howner, hid⟩ := List.mem_map.1 (h claim List.mem_cons_self)
        exact List.any_eq_true.2 ⟨owner, howner, by simpa using hid⟩
      rw [List.foldl_cons, List.foldl_cons, hmark]
      refine ih (s.markReference claim) fun c hc => ?_
      rw [map_id_markReference]
      exact h c (List.mem_cons_of_mem claim hc)

/-- An entity without foreign keys needs no recomputation of the view. -/
theorem Synced.pushEntity (h : s.Synced)
    (hresolves : ∀ r ∈ s.relationships, (s.resolve? r).isSome) {e : Entity} (he : e.bare = e) :
    (s.pushEntity e).Synced := by
  have hbare : (s.pushEntity e).mapFields Field.clearReference = s.bare.pushEntity e := by
    refine ext_of ?_ rfl
    change (s.pushEntity e).bare.entities = _
    simp [he]
  have hends : ∀ c ∈ s.references, c.1.entity ∈ s.bare.entities.map (·.id) := by
    intro c hc
    obtain ⟨r, hr, -, -, rfl⟩ := mem_references.1 hc
    obtain ⟨owner, howner, hid, -⟩ :=
      hasEnd_of_isSome ((resolve?_isSome_iff r).1 (hresolves r hr)).2
    simpa [Function.comp_def] using ⟨owner, howner, hid⟩
  rw [Synced, syncForeignKeys, references_pushEntity e hresolves, hbare,
    foldl_markReference_pushEntity e _ _ hends]
  exact congrArg (Schema.pushEntity · e) h

theorem Referential.pushEntity (h : s.Referential) {e : Entity}
    (hid : ∀ e' ∈ s.entities, e'.id ≠ e.id) (hfields : (e.fields.map (·.id)).Nodup) :
    (s.pushEntity e).Referential := by
  refine ⟨?_, fun e' he' => ?_, h.relationshipIds, fun r hr => ?_⟩
  · simp only [pushEntity_entities, List.map_append, List.map_cons, List.map_nil]
    refine h.entityIds.append (List.nodup_singleton e.id) ?_
    intro id hold hnew
    obtain ⟨e', he', rfl⟩ := List.mem_map.1 hold
    exact hid e' he' (List.mem_singleton.1 hnew)
  · rcases List.mem_append.1 he' with hold | hnew
    · exact h.fieldIds e' hold
    · obtain rfl := List.mem_singleton.1 hnew
      exact hfields
  · rw [resolve?_pushEntity e (h.resolves r hr)]
    exact h.resolves r hr

theorem Named.pushEntity (h : s.Named) {e : Entity} (hne : e.fields ≠ []) (hname : IsName e.name)
    (hfree : ∀ e' ∈ s.entities, Text.foldAscii e'.name ≠ Text.foldAscii e.name)
    (hfieldNames : ∀ f ∈ e.fields, IsName f.name)
    (hdistinct : (e.fields.map fun f => Text.foldAscii f.name).Nodup) :
    (s.pushEntity e).Named := by
  have hmem : ∀ {P : Entity → Prop}, (∀ e' ∈ s.entities, P e') → P e →
      ∀ e' ∈ (s.pushEntity e).entities, P e' := by
    intro P hold hnew e' he'
    rcases List.mem_append.1 he' with he' | he'
    · exact hold e' he'
    · exact List.mem_singleton.1 he' ▸ hnew
  refine ⟨hmem h.fields hne, hmem h.entityNames hname, ?_, hmem h.fieldNames hfieldNames,
    hmem h.fieldNames_distinct hdistinct, h.links_distinct⟩
  simp only [pushEntity_entities, List.map_append, List.map_cons, List.map_nil]
  refine h.entityNames_distinct.append (List.nodup_singleton _) ?_
  intro name hold hnew
  obtain ⟨e', he', rfl⟩ := List.mem_map.1 hold
  exact hfree e' he' (List.mem_singleton.1 hnew)

/-- The name for a new table is a candidate that no table has. -/
theorem freeName_spec (s : Schema) :
    s.nameTaken s.freeName none = false ∧ ∃ k, s.freeName = NewEntity.candidate k := by
  let candidates := (List.range (s.entities.length + 1)).map NewEntity.candidate
  cases hfind : candidates.find? fun name => !s.nameTaken name none with
  | some name =>
      have hname : s.freeName = name := by
        rw [freeName, hfind]
        rfl
      obtain ⟨k, -, hk⟩ := List.mem_map.1 (List.mem_of_find?_eq_some hfind)
      rw [hname]
      exact ⟨by simpa using List.find?_some hfind, k, hk.symm⟩
  | none =>
      -- Otherwise every candidate is the name of a table, but there are not that many tables.
      have hsub : candidates.map Text.foldAscii ⊆ s.entities.map (Text.foldAscii ·.name) := by
        intro folded hmem
        obtain ⟨name, hname, rfl⟩ := List.mem_map.1 hmem
        have htaken : s.nameTaken name none = true := by
          simpa using List.find?_eq_none.1 hfind name hname
        obtain ⟨e, he, hsame⟩ := List.any_eq_true.1 htaken
        exact List.mem_map.2 ⟨e, he, by simpa [Text.sameName] using hsame⟩
      have hnodup : (candidates.map Text.foldAscii).Nodup := by
        rw [List.map_map]
        exact List.nodup_range.map NewEntity.foldAscii_candidate_injective
      have hlength := (List.subperm_of_subset hnodup hsub).length_le
      rw [List.length_map, List.length_map, List.length_map, List.length_range] at hlength
      exact absurd hlength (Nat.not_succ_le_self _)

theorem bare_newEntity (s : Schema) (name : String) (id : EntityId) (keyId : FieldId) :
    (s.newEntity name id keyId).bare = s.newEntity name id keyId := rfl

theorem Referential.pushNew (h : s.Referential) (name : String) {ids : IdSupply}
    (hfresh : ids.Fresh s) : (s.pushEntity (s.newEntity name ids.entity ids.field)).Referential :=
  h.pushEntity hfresh.entity (List.nodup_singleton _)

theorem Named.pushNew (h : s.Named) {name : String} (hname : IsName name)
    (hfree : s.nameTaken name none = false) (id : EntityId) (keyId : FieldId) :
    (s.pushEntity (s.newEntity name id keyId)).Named := by
  refine h.pushEntity (List.cons_ne_nil _ _) hname (nameTaken_none_eq_false hfree) ?_
    (List.nodup_singleton _)
  intro f hf
  have hkey : f.name = "id" := congrArg Field.name (List.mem_singleton.1 hf)
  rw [hkey]
  exact ⟨by decide, by decide⟩

theorem addEntityNamed_eq_ok {name : String} {id : EntityId} {keyId : FieldId}
    (h : s.addEntityNamed name id keyId = .ok t) :
    ∃ stored, IsName stored ∧ s.nameTaken stored none = false ∧
      t = s.pushEntity (s.newEntity stored id keyId) := by
  obtain ⟨stored, hstored, h⟩ := exists_of_bind_eq_ok h
  split at h
  · cases h
  · next hfree =>
      exact ⟨stored, checkedName_eq_ok hstored, Bool.eq_false_iff.2 hfree, (Except.ok.inj h).symm⟩

/-! ## Deleting, renaming and moving an entity -/

/-- The schema without the first entity of an id and the relationships that touch it. -/
def withoutEntity (s : Schema) (id : EntityId) : Schema where
  entities := eraseFirst (·.id == id) s.entities
  relationships := s.relationships.filter (!·.touches id)

theorem deleteEntity_eq_ok {id : EntityId} {e : Entity} (h : s.deleteEntity id = .ok (e, t)) :
    s.entity? id = some e ∧ t = (s.withoutEntity id).syncForeignKeys := by
  obtain ⟨_, he, h⟩ := exists_of_bind_eq_ok h
  obtain ⟨rfl, rfl⟩ := Prod.mk.inj (Except.ok.inj h)
  exact ⟨entityOrReject_eq_ok he, rfl⟩

theorem Referential.withoutEntity (h : s.Referential) (id : EntityId) :
    (s.withoutEntity id).Referential := by
  have hsub : (s.withoutEntity id).entities.Sublist s.entities := eraseFirst_sublist _ _
  have hids : ((s.withoutEntity id).entities.map (·.id)).Nodup := h.entityIds.sublist (hsub.map _)
  have hend : ∀ p : Endpoint, s.HasEnd p → p.entity ≠ id → (s.withoutEntity id).HasEnd p := by
    rintro p ⟨e, he, hid, hfield⟩ hne
    refine ⟨e, ?_, hid, hfield⟩
    simp only [Schema.withoutEntity, eraseFirst_key_eq_filter h.entityIds id]
    exact List.mem_filter.2 ⟨he, by simpa [hid] using hne⟩
  refine ⟨hids, fun e he => h.fieldIds e (hsub.subset he), ?_, fun r hr => ?_⟩
  · exact h.relationshipIds.sublist (List.filter_sublist.map _)
  · obtain ⟨hmem, huntouched⟩ := List.mem_filter.1 hr
    have hne : r.parent.entity ≠ id ∧ r.child.entity ≠ id := by
      simpa [Relationship.touches] using huntouched
    obtain ⟨hp, hc⟩ := h.hasEnds hmem
    exact resolve?_isSome hids (hend _ hp hne.1) (hend _ hc hne.2)

theorem Named.withoutEntity (h : s.Named) (id : EntityId) : (s.withoutEntity id).Named := by
  have hsub : (s.withoutEntity id).entities.Sublist s.entities := eraseFirst_sublist _ _
  exact ⟨fun e he => h.fields e (hsub.subset he), fun e he => h.entityNames e (hsub.subset he),
    h.entityNames_distinct.sublist (hsub.map _), fun e he => h.fieldNames e (hsub.subset he),
    fun e he => h.fieldNames_distinct e (hsub.subset he),
    h.links_distinct.sublist (List.filter_sublist.map _)⟩

theorem renameEntity_eq_ok {id : EntityId} {name : String} (h : s.renameEntity id name = .ok t) :
    ∃ stored, IsName stored ∧ s.nameTaken stored (some id) = false ∧
      t = (s.updateEntity id fun e => { e with name := stored }).syncForeignKeys := by
  obtain ⟨stored, hstored, h⟩ := exists_of_bind_eq_ok h
  obtain ⟨_, -, h⟩ := exists_of_bind_eq_ok h
  split at h
  · cases h
  · next hfree =>
      exact ⟨stored, checkedName_eq_ok hstored, Bool.eq_false_iff.2 hfree, (Except.ok.inj h).symm⟩

theorem exists_entity?_of_renameEntity {id : EntityId} {name : String}
    (h : s.renameEntity id name = .ok t) : ∃ e, s.entity? id = some e := by
  obtain ⟨_, -, h⟩ := exists_of_bind_eq_ok h
  obtain ⟨e, he, -⟩ := exists_of_bind_eq_ok h
  exact ⟨e, entityOrReject_eq_ok he⟩

theorem Referential.rename (h : s.Referential) (id : EntityId) (name : String) :
    (s.updateEntity id fun e => { e with name }).Referential :=
  h.updateEntity id (fun _ => rfl) (fun e he _ => h.fieldIds e he) fun _ _ _ g hg => ⟨g, hg, rfl⟩

theorem Named.rename (h : s.Named) (href : s.Referential) {id : EntityId} {name : String}
    (hname : IsName name) (hfree : s.nameTaken name (some id) = false) :
    (s.updateEntity id fun e => { e with name }).Named :=
  h.updateEntity href id (fun e he _ => h.fields e he) (fun _ _ _ => hname)
    (fun _ _ _ => nameTaken_eq_false hfree) (fun e he _ => h.fieldNames e he)
    fun e he _ => h.fieldNames_distinct e he

theorem moveEntity_eq_ok {id : EntityId} {position : Position}
    (h : s.moveEntity id position = .ok t) :
    t = s.updateEntity id fun e => { e with position } := by
  obtain ⟨_, -, h⟩ := exists_of_bind_eq_ok h
  exact (Except.ok.inj h).symm

theorem exists_entity?_of_moveEntity {id : EntityId} {position : Position}
    (h : s.moveEntity id position = .ok t) : ∃ e, s.entity? id = some e := by
  obtain ⟨e, he, -⟩ := exists_of_bind_eq_ok h
  exact ⟨e, entityOrReject_eq_ok he⟩

end Schema

end EntityRelation
