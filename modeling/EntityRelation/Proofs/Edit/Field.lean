import EntityRelation.Proofs.Edit.Preservation

/-!
# Editing fields

An added field gets a fresh id and a replaced one keeps its own, so ids stay distinct and no end of
a relationship is lost. With a field go the relationships that bind it, and an entity never loses
its last field.
-/

namespace EntityRelation

theorem eraseFirst_ne_nil {α : Type} (p : α → Bool) {as : List α} (hne : as ≠ [])
    (hlen : as.length ≠ 1) : eraseFirst p as ≠ [] := by
  match as, hne, hlen with
  | a :: b :: rest, _, _ =>
      by_cases ha : p a
      · simp [eraseFirst, ha]
      · simp [eraseFirst, ha]

namespace Schema

variable {s t : Schema} {entity : EntityId} {id : FieldId} {field : Field} {e : Entity}

/-- Where ids are distinct, the entity of an id is the only one that bears it. -/
theorem Referential.eq_of_entity? (h : s.Referential) (hfind : s.entity? entity = some e)
    {e' : Entity} (he' : e' ∈ s.entities) (hid : e'.id = entity) : e' = e := by
  have hsame := entity?_eq_some h.entityIds he'
  rw [hid, hfind] at hsame
  exact (Option.some.inj hsame).symm

/-! ## Adding a field -/

theorem addField_eq_ok (h : s.addField entity field id = .ok t) :
    ∃ stored e, IsName stored ∧ s.entity? entity = some e ∧ e.nameTaken stored none = false ∧
      t = (s.updateEntity entity fun e =>
        { e with fields := e.fields ++ [{ field with id, name := stored }] }).syncForeignKeys := by
  obtain ⟨stored, hstored, h⟩ := exists_of_bind_eq_ok h
  obtain ⟨e, he, h⟩ := exists_of_bind_eq_ok h
  split at h
  · cases h
  · next hfree =>
      exact ⟨stored, e, checkedName_eq_ok hstored, entityOrReject_eq_ok he,
        Bool.eq_false_iff.2 hfree, (Except.ok.inj h).symm⟩

theorem Referential.appendField (h : s.Referential) (entity : EntityId) {field : Field}
    (hfresh : ∀ e ∈ s.entities, ∀ f ∈ e.fields, f.id ≠ field.id) :
    (s.updateEntity entity fun e => { e with fields := e.fields ++ [field] }).Referential := by
  refine h.updateEntity entity (fun _ => rfl) (fun e he _ => ?_) fun e _ _ g hg =>
    ⟨g, List.mem_append_left _ hg, rfl⟩
  simp only [List.map_append, List.map_cons, List.map_nil]
  refine (h.fieldIds e he).append (List.nodup_singleton _) ?_
  intro fieldId hold hnew
  obtain ⟨f, hf, rfl⟩ := List.mem_map.1 hold
  exact hfresh e he f hf (List.mem_singleton.1 hnew)

theorem Named.appendField (h : s.Named) (href : s.Referential) (field : Field)
    (hfind : s.entity? entity = some e) (hname : IsName field.name)
    (hfree : e.nameTaken field.name none = false) :
    (s.updateEntity entity fun e => { e with fields := e.fields ++ [field] }).Named := by
  refine h.updateEntity href entity (fun _ _ _ => by simp) (fun e he _ => h.entityNames e he)
    (fun e' he' hid e'' he'' hne => ?_) (fun e' he' _ f hf => ?_) fun e' he' hid => ?_
  · intro hsame
    have hboth := List.inj_on_of_nodup_map h.entityNames_distinct he'' he' hsame
    exact hne (hboth ▸ hid)
  · rcases List.mem_append.1 hf with hold | hnew
    · exact h.fieldNames e' he' f hold
    · obtain rfl := List.mem_singleton.1 hnew
      exact hname
  · obtain rfl := href.eq_of_entity? hfind he' hid
    simp only [List.map_append, List.map_cons, List.map_nil]
    refine (h.fieldNames_distinct e' he').append (List.nodup_singleton _) ?_
    intro name hold hnew
    obtain ⟨f, hf, rfl⟩ := List.mem_map.1 hold
    exact Entity.nameTaken_none_eq_false hfree f hf (List.mem_singleton.1 hnew)

/-! ## Replacing a field -/

theorem replaceField_eq_ok (h : s.replaceField entity id field = .ok t) :
    ∃ stored e, IsName stored ∧ s.entity? entity = some e ∧ e.nameTaken stored (some id) = false ∧
      t = (s.updateEntity entity fun e =>
        e.updateField id fun _ => { field with id, name := stored }).syncForeignKeys := by
  obtain ⟨stored, hstored, h⟩ := exists_of_bind_eq_ok h
  obtain ⟨e, he, h⟩ := exists_of_bind_eq_ok h
  dsimp only at h
  by_cases hfound : (e.field? id).isNone
  · rw [if_pos hfound] at h
    cases h
  · rw [if_neg hfound] at h
    by_cases hfree : e.nameTaken stored (some id)
    · rw [if_pos hfree] at h
      cases h
    · rw [if_neg hfree] at h
      exact ⟨stored, e, checkedName_eq_ok hstored, entityOrReject_eq_ok he,
        Bool.eq_false_iff.2 hfree, (Except.ok.inj h).symm⟩

theorem exists_field?_of_replaceField {entity : EntityId} {id : FieldId} {field : Field}
    {e : Entity} (he : s.entity? entity = some e) (h : s.replaceField entity id field = .ok t) :
    ∃ old, e.field? id = some old := by
  obtain ⟨_, -, h⟩ := exists_of_bind_eq_ok h
  obtain ⟨e', he', h⟩ := exists_of_bind_eq_ok h
  obtain rfl := Option.some.inj (he.symm.trans (entityOrReject_eq_ok he'))
  cases hold : e.field? id with
  | some old => exact ⟨old, rfl⟩
  | none =>
      simp only [hold, Option.isNone_none, if_true] at h
      cases h

theorem updateField_fields {e : Entity} (h : (e.fields.map (·.id)).Nodup) (id : FieldId)
    (f : Field → Field) :
    (e.updateField id f).fields = e.fields.map fun g => if g.id == id then f g else g :=
  updateFirst_key_eq_map h id f

theorem Referential.putField (h : s.Referential) (entity : EntityId) (field : Field) :
    (s.updateEntity entity fun e => e.updateField field.id fun _ => field).Referential := by
  have hids : ∀ e ∈ s.entities,
      (e.updateField field.id fun _ => field).fields.map (·.id) = e.fields.map (·.id) := by
    intro e he
    rw [updateField_fields (h.fieldIds e he), List.map_map]
    refine List.map_congr_left fun g _ => ?_
    by_cases hg : g.id = field.id
    · simp [hg]
    · simp [hg]
  refine h.updateEntity entity (fun _ => rfl) (fun e he _ => ?_) fun e he _ g hg => ?_
  · rw [hids e he]
    exact h.fieldIds e he
  · have hmem := List.mem_map_of_mem (f := fun g : Field => g.id) hg
    rw [← hids e he] at hmem
    exact List.mem_map.1 hmem

theorem Named.putField (h : s.Named) (href : s.Referential) (field : Field)
    (hfind : s.entity? entity = some e) (hname : IsName field.name)
    (hfree : e.nameTaken field.name (some field.id) = false) :
    (s.updateEntity entity fun e => e.updateField field.id fun _ => field).Named := by
  refine h.updateEntity href entity (fun e' he' _ => ?_) (fun e he _ => h.entityNames e he)
    (fun e' he' hid e'' he'' hne => ?_) (fun e' he' _ f hf => ?_) fun e' he' hid => ?_
  · intro hnil
    have hlen := congrArg List.length hnil
    rw [Entity.updateField, length_updateFirst, List.length_nil] at hlen
    exact h.fields e' he' (List.length_eq_zero_iff.1 hlen)
  · intro hsame
    have hboth := List.inj_on_of_nodup_map h.entityNames_distinct he'' he' hsame
    exact hne (hboth ▸ hid)
  · rcases mem_updateFirst hf with hold | ⟨-, -, rfl⟩
    · exact h.fieldNames e' he' f hold
    · exact hname
  · obtain rfl := href.eq_of_entity? hfind he' hid
    have hfieldIds := href.fieldIds e' he'
    rw [updateField_fields hfieldIds, List.map_map]
    have hchange := nodup_map_change hfieldIds (h.fieldNames_distinct e' he') field.id
      (w := fun _ => Text.foldAscii field.name) fun _ _ _ => Entity.nameTaken_eq_false hfree
    refine (List.map_congr_left fun g _ => ?_) ▸ hchange
    by_cases hg : g.id = field.id
    · simp [hg]
    · simp [hg]

/-! ## Deleting a field -/

/-- The schema without the first field of an id in an entity and the relationships that bind it. -/
def withoutField (s : Schema) (entity : EntityId) (id : FieldId) : Schema :=
  { s.updateEntity entity fun e => { e with fields := eraseFirst (·.id == id) e.fields } with
    relationships := s.relationships.filter (!·.binds entity id) }

theorem deleteField_eq_ok (h : s.deleteField entity id = .ok (field, t)) :
    ∃ e, s.entity? entity = some e ∧ e.field? id = some field ∧ e.fields.length ≠ 1 ∧
      t = (s.withoutField entity id).syncForeignKeys := by
  obtain ⟨e, he, h⟩ := exists_of_bind_eq_ok h
  split at h
  · cases h
  · next f hf =>
    split at h
    · cases h
    · next hlen =>
        obtain ⟨rfl, rfl⟩ := Prod.mk.inj (Except.ok.inj h)
        exact ⟨e, entityOrReject_eq_ok he, hf, hlen, rfl⟩

theorem mem_withoutField (href : s.Referential) {e : Entity}
    (he : e ∈ (s.withoutField entity id).entities) :
    ∃ e' ∈ s.entities, e.id = e'.id ∧ e.name = e'.name ∧ e.fields.Sublist e'.fields ∧
      (e = e' ∨ e'.id = entity ∧ e.fields = eraseFirst (·.id == id) e'.fields) := by
  rcases mem_updateEntity he href with ⟨hold, -⟩ | ⟨e', hold, hid, rfl⟩
  · exact ⟨e, hold, rfl, rfl, List.Sublist.refl _, Or.inl rfl⟩
  · exact ⟨e', hold, rfl, rfl, eraseFirst_sublist _ _, Or.inr ⟨hid, rfl⟩⟩

theorem map_withoutField {β : Type} (g : Entity → β)
    (h : ∀ (e : Entity) fields, g { e with fields } = g e) :
    (s.withoutField entity id).entities.map g = s.entities.map g :=
  map_updateFirst _ _ g (fun e => h e _) s.entities

theorem Referential.withoutField (h : s.Referential) (entity : EntityId) (id : FieldId) :
    (s.withoutField entity id).Referential := by
  have hids : ((s.withoutField entity id).entities.map (·.id)).Nodup := by
    rw [map_withoutField (·.id) fun _ _ => rfl]
    exact h.entityIds
  have hend : ∀ p : Endpoint, s.HasEnd p → p ≠ ⟨entity, id⟩ →
      (s.withoutField entity id).HasEnd p := by
    rintro ⟨_, _⟩ ⟨e, he, rfl, f, hf, rfl⟩ hne
    have hmem := List.mem_map_of_mem (f := fun e : Entity =>
      if e.id == entity then { e with fields := eraseFirst (·.id == id) e.fields } else e) he
    rw [← updateEntity_entities h] at hmem
    by_cases hid : e.id = entity
    · rw [if_pos (beq_iff_eq.2 hid)] at hmem
      refine ⟨_, hmem, rfl, f, ?_, rfl⟩
      rw [eraseFirst_key_eq_filter (h.fieldIds e he) id]
      have hother : f.id ≠ id := fun hf => hne (by rw [hid, hf])
      exact List.mem_filter.2 ⟨hf, by simpa using hother⟩
    · rw [if_neg (by simpa using hid)] at hmem
      exact ⟨e, hmem, rfl, f, hf, rfl⟩
  refine ⟨hids, fun e he => ?_, h.relationshipIds.sublist (List.filter_sublist.map _),
    fun r hr => ?_⟩
  · obtain ⟨e', he', -, -, hsub, -⟩ := mem_withoutField h he
    exact (h.fieldIds e' he').sublist (hsub.map _)
  · obtain ⟨hmem, hunbound⟩ := List.mem_filter.1 hr
    have hne : r.parent ≠ ⟨entity, id⟩ ∧ r.child ≠ ⟨entity, id⟩ := by
      simpa [Relationship.binds] using hunbound
    obtain ⟨hp, hc⟩ := h.hasEnds hmem
    exact resolve?_isSome hids (hend _ hp hne.1) (hend _ hc hne.2)

theorem Named.withoutField (h : s.Named) (href : s.Referential)
    (hfind : s.entity? entity = some e) (hlen : e.fields.length ≠ 1) (id : FieldId) :
    (s.withoutField entity id).Named := by
  refine ⟨fun e' he' => ?_, fun e' he' => ?_, ?_, fun e' he' f hf => ?_, fun e' he' => ?_,
    h.links_distinct.sublist (List.filter_sublist.map _)⟩
  · obtain ⟨old, hold, -, -, -, rfl | ⟨hid, hfields⟩⟩ := mem_withoutField href he'
    · exact h.fields _ hold
    · obtain rfl := href.eq_of_entity? hfind hold hid
      rw [hfields]
      exact eraseFirst_ne_nil _ (h.fields _ hold) hlen
  · obtain ⟨old, hold, -, hname, -⟩ := mem_withoutField href he'
    exact hname ▸ h.entityNames old hold
  · rw [map_withoutField (fun e => Text.foldAscii e.name) fun _ _ => rfl]
    exact h.entityNames_distinct
  · obtain ⟨old, hold, -, -, hsub, -⟩ := mem_withoutField href he'
    exact h.fieldNames old hold f (hsub.subset hf)
  · obtain ⟨old, hold, -, -, hsub, -⟩ := mem_withoutField href he'
    exact (h.fieldNames_distinct old hold).sublist (hsub.map _)

end Schema

end EntityRelation
