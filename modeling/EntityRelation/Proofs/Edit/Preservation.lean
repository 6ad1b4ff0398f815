import EntityRelation.Edit.Operation
import EntityRelation.Proofs.Schema.WellFormed
import EntityRelation.Proofs.Text.Trim

/-!
# Edits keep schemas well-formed

An accepted operation leads from a well-formed schema to a well-formed one
(`Operation.wellFormed_of_perform`), and from a closed schema to a closed one whatever its names are
(`Operation.closed_and_named_of_perform`), as long as the ids it takes are fresh. Most operations
recompute the foreign key view in the end, so only what does not depend on the view has to be kept
up to there.
-/

namespace EntityRelation

theorem exists_of_bind_eq_ok {ε α β : Type} {x : Except ε α} {f : α → Except ε β} {b : β}
    (h : x >>= f = .ok b) : ∃ a, x = .ok a ∧ f a = .ok b := by
  cases x with
  | error e => cases h
  | ok a => exact ⟨a, rfl, h⟩

theorem exists_of_map_eq_ok {ε α β : Type} {x : Except ε α} {f : α → β} {b : β}
    (h : x.map f = .ok b) : ∃ a, x = .ok a ∧ f a = b := by
  cases x with
  | error e => cases h
  | ok a => exact ⟨a, rfl, Except.ok.inj h⟩

theorem checkedName_eq_ok {name stored : String} (h : checkedName name = .ok stored) :
    IsName stored := by
  simp only [checkedName] at h
  split at h
  · cases h
  · next hne =>
      obtain rfl := Except.ok.inj h
      exact ⟨Text.trimmed_trimmed name, Bool.eq_false_iff.2 hne⟩

theorem Entity.nameTaken_eq_false {e : Entity} {name : String} {id : FieldId}
    (h : e.nameTaken name (some id) = false) :
    ∀ f ∈ e.fields, f.id ≠ id → Text.foldAscii f.name ≠ Text.foldAscii name := by
  intro f hf hne
  have := List.any_eq_false.1 h f hf
  simpa [hne, Text.sameName] using this

theorem Entity.nameTaken_none_eq_false {e : Entity} {name : String}
    (h : e.nameTaken name none = false) :
    ∀ f ∈ e.fields, Text.foldAscii f.name ≠ Text.foldAscii name := by
  intro f hf
  have := List.any_eq_false.1 h f hf
  simpa [Text.sameName] using this

namespace Schema

variable {s t : Schema}

theorem nameTaken_eq_false {name : String} {id : EntityId}
    (h : s.nameTaken name (some id) = false) :
    ∀ e ∈ s.entities, e.id ≠ id → Text.foldAscii e.name ≠ Text.foldAscii name := by
  intro e he hne
  have := List.any_eq_false.1 h e he
  simpa [hne, Text.sameName] using this

theorem nameTaken_none_eq_false {name : String} (h : s.nameTaken name none = false) :
    ∀ e ∈ s.entities, Text.foldAscii e.name ≠ Text.foldAscii name := by
  intro e he
  have := List.any_eq_false.1 h e he
  simpa [Text.sameName] using this

theorem entityOrReject_eq_ok {id : EntityId} {e : Entity} (h : s.entityOrReject id = .ok e) :
    s.entity? id = some e := by
  simp only [entityOrReject] at h
  split at h
  · next he => rw [he, Except.ok.inj h]
  · cases h

/-! ## Changing one entity -/

/-- A change of the first entity of an id is seen through that id only. -/
theorem entity?_updateEntity {id : EntityId} {f : Entity → Entity} (hid : ∀ e, (f e).id = e.id)
    (k : EntityId) :
    (s.updateEntity id f).entity? k = if k = id then (s.entity? k).map f else s.entity? k := by
  rw [entity?, updateEntity, entity?]
  by_cases hk : k = id
  · rw [if_pos hk, hk]
    exact find?_updateFirst (·.id == id) f (fun e he => by rw [hid]; exact he) s.entities
  · rw [if_neg hk]
    exact find?_updateFirst_key_of_ne hk (fun e he => (hid e).trans he) s.entities

theorem updateEntity_entities (h : s.Referential) (id : EntityId) (f : Entity → Entity) :
    (s.updateEntity id f).entities = s.entities.map fun e => if e.id == id then f e else e :=
  updateFirst_key_eq_map h.entityIds id f

theorem mem_updateEntity {id : EntityId} {f : Entity → Entity} {e : Entity}
    (he : e ∈ (s.updateEntity id f).entities) (h : s.Referential) :
    (e ∈ s.entities ∧ e.id ≠ id) ∨ ∃ e' ∈ s.entities, e'.id = id ∧ e = f e' := by
  rw [updateEntity_entities h] at he
  obtain ⟨e', he', rfl⟩ := List.mem_map.1 he
  by_cases hid : e'.id = id
  · exact Or.inr ⟨e', he', hid, by simp [hid]⟩
  · exact Or.inl ⟨by simpa [hid] using he', by simp [hid]⟩

/-- An entity may be changed when it keeps its id, and its fields keep theirs. -/
theorem Referential.updateEntity (h : s.Referential) (id : EntityId) {f : Entity → Entity}
    (hid : ∀ e, (f e).id = e.id)
    (hfields : ∀ e ∈ s.entities, e.id = id → ((f e).fields.map (·.id)).Nodup)
    (hkept : ∀ e ∈ s.entities, e.id = id → ∀ g ∈ e.fields, ∃ g' ∈ (f e).fields, g'.id = g.id) :
    (s.updateEntity id f).Referential := by
  have hids : ((s.updateEntity id f).entities.map (·.id)).Nodup := by
    rw [show (s.updateEntity id f).entities.map (·.id) = s.entities.map (·.id) from
      map_updateFirst _ f (·.id) hid s.entities]
    exact h.entityIds
  have hend : ∀ p, s.HasEnd p → (s.updateEntity id f).HasEnd p := by
    rintro p ⟨e, he, heid, g, hg, hgid⟩
    have hmem : (if e.id == id then f e else e) ∈ (s.updateEntity id f).entities := by
      rw [updateEntity_entities h]
      exact List.mem_map_of_mem he
    by_cases hcase : e.id = id
    · simp only [hcase, beq_self_eq_true, if_true] at hmem
      obtain ⟨g', hg', hgid'⟩ := hkept e he hcase g hg
      exact ⟨f e, hmem, (hid e).trans heid, g', hg', hgid'.trans hgid⟩
    · simp only [beq_iff_eq, hcase, if_false] at hmem
      exact ⟨e, hmem, heid, g, hg, hgid⟩
  refine ⟨hids, fun e he => ?_, h.relationshipIds, fun r hr => ?_⟩
  · rcases mem_updateEntity he h with ⟨hold, -⟩ | ⟨e, hold, heid, rfl⟩
    · exact h.fieldIds e hold
    · exact hfields e hold heid
  · exact resolve?_isSome hids (hend _ (h.hasEnds hr).1) (hend _ (h.hasEnds hr).2)

/-- The names of an entity may be changed into names that its siblings do not have. -/
theorem Named.updateEntity (h : s.Named) (href : s.Referential) (id : EntityId)
    {f : Entity → Entity} (hfields : ∀ e ∈ s.entities, e.id = id → (f e).fields ≠ [])
    (hname : ∀ e ∈ s.entities, e.id = id → IsName (f e).name)
    (hfree : ∀ e ∈ s.entities, e.id = id → ∀ e' ∈ s.entities, e'.id ≠ id →
      Text.foldAscii e'.name ≠ Text.foldAscii (f e).name)
    (hfieldNames : ∀ e ∈ s.entities, e.id = id → ∀ g ∈ (f e).fields, IsName g.name)
    (hdistinct : ∀ e ∈ s.entities, e.id = id →
      ((f e).fields.map fun g => Text.foldAscii g.name).Nodup) :
    (s.updateEntity id f).Named := by
  refine ⟨fun e he => ?_, fun e he => ?_, ?_, fun e he => ?_, fun e he => ?_, h.links_distinct⟩
  · rcases mem_updateEntity he href with ⟨hold, -⟩ | ⟨e, hold, heid, rfl⟩
    · exact h.fields e hold
    · exact hfields e hold heid
  · rcases mem_updateEntity he href with ⟨hold, -⟩ | ⟨e, hold, heid, rfl⟩
    · exact h.entityNames e hold
    · exact hname e hold heid
  · rw [updateEntity_entities href, List.map_map]
    have hchange := nodup_map_change href.entityIds h.entityNames_distinct id
      (w := fun e => Text.foldAscii (f e).name) hfree
    refine (List.map_congr_left fun e _ => ?_) ▸ hchange
    by_cases hcase : e.id = id
    · simp [hcase]
    · simp [hcase]
  · rcases mem_updateEntity he href with ⟨hold, -⟩ | ⟨e, hold, heid, rfl⟩
    · exact h.fieldNames e hold
    · exact hfieldNames e hold heid
  · rcases mem_updateEntity he href with ⟨hold, -⟩ | ⟨e, hold, heid, rfl⟩
    · exact h.fieldNames_distinct e hold
    · exact hdistinct e hold heid

end Schema

end EntityRelation
