import EntityRelation.Proofs.DefinitionOrder
import EntityRelation.Proofs.Edit.Cascade
import EntityRelation.Proofs.Edit.Relationship

/-!
# Opposite operations cancel

What an operation creates can be deleted again, and what it changes can be changed back to what it
was (`Operation.opposite?`). The opposite is never refused, and it leads back to the very schema
that the operation was performed on (`opposite_cancels`). Both operations may recompute the foreign
key view. What the second one does besides does not look at the view (`Entity.IsBlind`), so it comes
to the same as if the view had been recomputed once, in the end.
-/

namespace EntityRelation

section FirstMatch

variable {α β : Type} {p : α → Bool} {f g : α → α}

/-- A change of the first match is undone by a change of the first match. -/
theorem updateFirst_cancel {as : List α} {a : α} (h : as.find? p = some a) (hp : p (g a) = true)
    (hback : f (g a) = a) : updateFirst p f (updateFirst p g as) = as := by
  induction as with
  | nil => cases h
  | cons b rest ih =>
      by_cases hb : p b
      · obtain rfl : b = a := by simpa [hb] using h
        simp [updateFirst_cons, hb, hp, hback]
      · simp [updateFirst_cons, hb, ih (by simpa [hb] using h)]

theorem eraseFirst_append_singleton {as : List α} {a : α} (h : ∀ b ∈ as, p b = false)
    (ha : p a = true) : eraseFirst p (as ++ [a]) = as := by
  induction as with
  | nil => simp [eraseFirst, ha]
  | cons b rest ih =>
      have hrest := ih fun c hc => h c (List.mem_cons_of_mem b hc)
      simp [eraseFirst, h b List.mem_cons_self, hrest]

/-- A change that respects what a map shows respects it in a list. -/
theorem map_updateFirst_congr (v : α → β) (hp : ∀ a b, v a = v b → p a = p b)
    (hf : ∀ a b, v a = v b → v (f a) = v (f b)) {as bs : List α} (h : as.map v = bs.map v) :
    (updateFirst p f as).map v = (updateFirst p f bs).map v := by
  induction as generalizing bs with
  | nil =>
      obtain rfl := List.map_eq_nil_iff.1 h.symm
      rfl
  | cons a as ih =>
      obtain ⟨b, bs, rfl, hb, hbs⟩ := List.map_eq_cons_iff.1 h.symm
      rw [updateFirst_cons, updateFirst_cons, hp a b hb.symm]
      split
      · rw [List.map_cons, List.map_cons, hf a b hb.symm, hbs]
      · rw [List.map_cons, List.map_cons, hb, ih hbs.symm]

theorem map_eraseFirst_congr (v : α → β) (hp : ∀ a b, v a = v b → p a = p b) {as bs : List α}
    (h : as.map v = bs.map v) : (eraseFirst p as).map v = (eraseFirst p bs).map v := by
  induction as generalizing bs with
  | nil =>
      obtain rfl := List.map_eq_nil_iff.1 h.symm
      rfl
  | cons a as ih =>
      obtain ⟨b, bs, rfl, hb, hbs⟩ := List.map_eq_cons_iff.1 h.symm
      rw [eraseFirst, eraseFirst, hp a b hb.symm]
      split
      · exact hbs.symm
      · rw [List.map_cons, List.map_cons, hb, ih hbs.symm]

end FirstMatch

/-! ## Changes that do not look at the view -/

namespace Entity

/-- A change of entities whose outcome, but for the foreign key view, does not depend on the foreign
key view. -/
def IsBlind (f : Entity → Entity) : Prop :=
  ∀ e e' : Entity, e.bare = e'.bare → (f e).bare = (f e').bare

variable {e e' : Entity}

theorem bare_eq_iff : e.bare = e'.bare ↔ e.id = e'.id ∧ e.name = e'.name ∧
    e.fields.map Field.clearReference = e'.fields.map Field.clearReference ∧
      e.position = e'.position := by
  rw [bare, bare, Entity.mk.injEq]

theorem id_eq_of_bare (h : e.bare = e'.bare) : e.id = e'.id :=
  (bare_eq_iff.1 h).1

theorem isBlind_rename (name : String) : IsBlind fun e => { e with name } := by
  intro e e' h
  obtain ⟨hid, -, hfields, hposition⟩ := bare_eq_iff.1 h
  exact bare_eq_iff.2 ⟨hid, rfl, hfields, hposition⟩

/-- Changes of the fields are blind if they respect what is left of a field without its view. -/
theorem isBlind_fields {f : List Field → List Field}
    (hf : ∀ fs gs : List Field, fs.map Field.clearReference = gs.map Field.clearReference →
      (f fs).map Field.clearReference = (f gs).map Field.clearReference) :
    IsBlind fun e => { e with fields := f e.fields } := by
  intro e e' h
  obtain ⟨hid, hname, hfields, hposition⟩ := bare_eq_iff.1 h
  exact bare_eq_iff.2 ⟨hid, hname, hf _ _ hfields, hposition⟩

theorem beq_id_of_clearReference (id : FieldId) (f g : Field)
    (h : f.clearReference = g.clearReference) : (f.id == id) = (g.id == id) := by
  have hid : f.clearReference.id = g.clearReference.id := congrArg Field.id h
  rw [← Field.id_clearReference f, hid, Field.id_clearReference]

theorem isBlind_putField (id : FieldId) (field : Field) :
    IsBlind fun e => e.updateField id fun _ => field :=
  isBlind_fields fun _ _ h => map_updateFirst_congr Field.clearReference
    (beq_id_of_clearReference id) (fun _ _ _ => rfl) h

theorem isBlind_withoutField (id : FieldId) :
    IsBlind fun e => { e with fields := eraseFirst (·.id == id) e.fields } :=
  isBlind_fields fun _ _ h => map_eraseFirst_congr Field.clearReference
    (beq_id_of_clearReference id) h

theorem nameTaken_bare (e : Entity) (name : String) (id : Option FieldId) :
    e.bare.nameTaken name id = e.nameTaken name id := by
  rw [nameTaken, bare_fields, List.any_map, nameTaken]
  rfl

end Entity

theorem checkedName_of_isName {name : String} (h : IsName name) : checkedName name = .ok name := by
  simp [checkedName, h.trimmed, h.nonempty]

namespace Schema

variable {s t : Schema} {f g : Entity → Entity}

theorem nameTaken_bare (s : Schema) (name : String) (id : Option EntityId) :
    s.bare.nameTaken name id = s.nameTaken name id := by
  rw [nameTaken, bare_entities, List.any_map, nameTaken]
  rfl

/-- Schemas that differ in their views have the same entities but for the view. -/
theorem exists_entity?_of_bare {id : EntityId} {e : Entity} (h : t.bare = s.bare)
    (he : s.entity? id = some e) : ∃ e', t.entity? id = some e' ∧ e'.bare = e.bare := by
  have hmap : (t.entity? id).map Entity.bare = (s.entity? id).map Entity.bare := by
    rw [← entity?_bare, ← entity?_bare, h]
  rw [he, Option.map_some] at hmap
  exact Option.map_eq_some_iff.1 hmap

theorem bare_updateEntity_congr (hf : Entity.IsBlind f) (h : s.bare = t.bare) (id : EntityId) :
    (s.updateEntity id f).bare = (t.updateEntity id f).bare := by
  refine ext_of ?_ ?_
  · refine map_updateFirst_congr Entity.bare (fun e e' he => ?_) hf (congrArg entities h)
    simp only [Entity.id_eq_of_bare he]
  · exact (congrArg relationships h :)

theorem updateEntity_cancel {id : EntityId} {e : Entity} (he : s.entity? id = some e)
    (hid : ∀ e, (g e).id = e.id) (hback : f (g e) = e) :
    (s.updateEntity id g).updateEntity id f = s :=
  ext_of (updateFirst_cancel he (beq_iff_eq.2 ((hid e).trans (id_of_entity? he))) hback) rfl

/-- A blind change undoes another one also where the view is recomputed after each of them. -/
theorem Synced.updateEntity_cancel (h : s.Synced) (hf : Entity.IsBlind f) {id : EntityId}
    {e : Entity} (he : s.entity? id = some e) (hid : ∀ e, (g e).id = e.id) (hback : f (g e) = e) :
    ((s.updateEntity id g).syncForeignKeys.updateEntity id f).syncForeignKeys = s := by
  have hbare := bare_updateEntity_congr hf (bare_syncForeignKeys (s.updateEntity id g)) id
  rw [Schema.updateEntity_cancel he hid hback] at hbare
  rw [syncForeignKeys_congr hbare]
  exact h

/-- The changed entity is found again after its change and a recomputation of the view. -/
theorem exists_entity?_syncForeignKeys_updateEntity {id : EntityId} {e : Entity}
    (he : s.entity? id = some e) (hid : ∀ e, (g e).id = e.id) :
    ∃ e', (s.updateEntity id g).syncForeignKeys.entity? id = some e' ∧ e'.bare = (g e).bare := by
  refine exists_entity?_of_bare (bare_syncForeignKeys _) ?_
  rw [entity?_updateEntity hid, if_pos rfl, he, Option.map_some]

/-! ## Deleting what is new -/

theorem Referential.delete_new (h : s.Referential) (hs : s.Synced) {e : Entity}
    (hnew : ∀ e' ∈ s.entities, e'.id ≠ e.id) :
    (s.pushEntity e).deleteEntity e.id = .ok (e, s) := by
  have hfind : (s.pushEntity e).entity? e.id = some e := by
    rw [entity?, pushEntity_entities, List.find?_append, List.find?_eq_none.2]
    · simp
    · intro e' he'
      simpa using hnew e' he'
  have hbase : (s.pushEntity e).withoutEntity e.id = s := by
    refine ext_of ?_ ?_
    · exact eraseFirst_append_singleton (fun e' he' => by simpa using hnew e' he') (by simp)
    · refine List.filter_eq_self.2 fun r hr => ?_
      obtain ⟨⟨p, hp, hpid, -⟩, ⟨c, hc, hcid, -⟩⟩ := h.hasEnds hr
      have hpne := hnew p hp
      have hcne := hnew c hc
      rw [hpid] at hpne
      rw [hcid] at hcne
      simp [Relationship.touches, hpne, hcne]
  rw [deleteEntity_eq hfind, hbase, hs]

theorem deleteRelationship_eq {id : RelationshipId} {r : Relationship}
    (h : s.relationship? id = some r) :
    s.deleteRelationship id = .ok (r, (s.withoutRelationship id).syncForeignKeys) := by
  rw [deleteRelationship, h]
  rfl

theorem Synced.disconnect_new (hs : s.Synced) {r : Relationship}
    (hnew : ∀ r' ∈ s.relationships, r'.id ≠ r.id) :
    (s.pushRelationship r).syncForeignKeys.deleteRelationship r.id = .ok (r, s) := by
  have hrelationships : (s.pushRelationship r).syncForeignKeys.relationships =
      s.relationships ++ [r] := relationships_syncForeignKeys _
  have hfind : (s.pushRelationship r).syncForeignKeys.relationship? r.id = some r := by
    rw [relationship?, hrelationships, List.find?_append, List.find?_eq_none.2]
    · simp
    · intro r' hr'
      simpa using hnew r' hr'
  have hbase : ((s.pushRelationship r).syncForeignKeys.withoutRelationship r.id).bare = s.bare := by
    refine ext_of ?_ ?_
    · exact (congrArg entities (bare_syncForeignKeys (s.pushRelationship r)) :)
    · rw [bare_relationships, bare_relationships, withoutRelationship, hrelationships]
      exact eraseFirst_append_singleton (fun r' hr' => by simpa using hnew r' hr') (by simp)
  rw [deleteRelationship_eq hfind, syncForeignKeys_congr hbase, hs]

/-- A new field can be deleted when it is not the only one of its entity. -/
theorem Referential.deleteField_new (h : s.Referential) (hs : s.Synced) {entity : EntityId}
    (field : Field) {e : Entity} (he : s.entity? entity = some e) (hfields : e.fields ≠ [])
    (hnew : ∀ e ∈ s.entities, ∀ f ∈ e.fields, f.id ≠ field.id) :
    ∃ removed, (s.updateEntity entity fun e =>
      { e with fields := e.fields ++ [field] }).syncForeignKeys.deleteField entity field.id =
        .ok (removed, s) := by
  obtain ⟨e', he', hbare⟩ := exists_entity?_syncForeignKeys_updateEntity (s := s)
    (g := fun e => { e with fields := e.fields ++ [field] }) he fun _ => rfl
  have hclear := (Entity.bare_eq_iff.1 hbare).2.2.1
  have hlength : e'.fields.length ≠ 1 := by
    have hlength := congrArg List.length hclear
    simp only [List.length_map, List.length_append, List.length_singleton] at hlength
    have hpos := List.length_pos_iff.2 hfields
    omega
  obtain ⟨removed, hremoved⟩ : ∃ f, e'.field? field.id = some f := by
    rw [← Option.isSome_iff_exists, Entity.field?_isSome_iff]
    have hmem : field.clearReference ∈ e'.fields.map Field.clearReference := by
      rw [hclear]
      exact List.mem_map_of_mem (List.mem_append_right _ List.mem_cons_self)
    obtain ⟨f, hf, hsame⟩ := List.mem_map.1 hmem
    exact ⟨f, hf, (congrArg Field.id hsame :)⟩
  refine ⟨removed, ?_⟩
  rw [deleteField_eq he' hremoved hlength]
  -- No relationship binds the new field, so only the field itself is taken away.
  have hunbound : ∀ r ∈ s.relationships, (!r.binds entity field.id) = true := by
    have hend : ∀ p : Endpoint, s.HasEnd p → p ≠ ⟨entity, field.id⟩ := by
      rintro p ⟨e, he, -, f, hf, hid⟩ rfl
      exact hnew e he f hf hid
    intro r hr
    obtain ⟨hp, hc⟩ := h.hasEnds hr
    simp [Relationship.binds, hend _ hp, hend _ hc]
  have hwithout : ∀ u : Schema, u.relationships = s.relationships →
      u.withoutField entity field.id = u.updateEntity entity fun e =>
        { e with fields := eraseFirst (·.id == field.id) e.fields } := by
    intro u hu
    refine ext_of rfl ?_
    rw [Schema.withoutField, hu, List.filter_eq_self.2 hunbound]
    exact hu.symm
  have hrelationships := relationships_syncForeignKeys (s.updateEntity entity fun e =>
    { e with fields := e.fields ++ [field] })
  rw [hwithout _ hrelationships]
  refine congrArg (fun t => Except.ok (removed, t)) ?_
  refine hs.updateEntity_cancel (Entity.isBlind_withoutField field.id) he (fun _ => rfl) ?_
  have hfirst : eraseFirst (·.id == field.id) (e.fields ++ [field]) = e.fields :=
    eraseFirst_append_singleton (fun f hf => by simpa using hnew e (mem_of_entity? he) f hf)
      (by simp)
  simp only [hfirst]

/-! ## Changing back -/

theorem renameEntity_eq {id : EntityId} {name : String} {e : Entity} (hname : IsName name)
    (he : s.entity? id = some e) (hfree : s.nameTaken name (some id) = false) :
    s.renameEntity id name =
      .ok (s.updateEntity id fun e => { e with name }).syncForeignKeys := by
  rw [renameEntity, checkedName_of_isName hname, entityOrReject, he]
  simp only [bind, Except.bind, hfree]
  rfl

theorem replaceField_eq {entity : EntityId} {id : FieldId} {field : Field} {e : Entity}
    (hname : IsName field.name) (he : s.entity? entity = some e) (hf : (e.field? id).isSome)
    (hfree : e.nameTaken field.name (some id) = false) :
    s.replaceField entity id field = .ok (s.updateEntity entity fun e =>
      e.updateField id fun _ => { field with id }).syncForeignKeys := by
  have hfound : (e.field? id).isNone = false := by rw [← Option.not_isSome, hf]; rfl
  rw [replaceField, checkedName_of_isName hname, entityOrReject, he]
  simp only [bind, Except.bind, hfound, hfree]
  rfl

theorem moveEntity_eq {id : EntityId} {position : Position} {e : Entity}
    (he : s.entity? id = some e) :
    s.moveEntity id position = .ok (s.updateEntity id fun e => { e with position }) := by
  rw [moveEntity, entityOrReject, he]
  rfl

theorem setCardinality_eq {id : RelationshipId} {cardinality : Cardinality} {r : Relationship}
    (h : s.relationship? id = some r) :
    s.setCardinality id cardinality = .ok (s.withCardinality id cardinality) := by
  rw [setCardinality, h]
  rfl

/-- Every entity has a field, and names are stored names that differ from those of their siblings
in more than ASCII case. -/
structure NamedApart (s : Schema) : Prop where
  fields : ∀ e ∈ s.entities, e.fields ≠ []
  entityNames : ∀ e ∈ s.entities, IsName e.name
  entityNames_distinct : (s.entities.map fun e => Text.foldAscii e.name).Nodup
  fieldNames : ∀ e ∈ s.entities, ∀ f ∈ e.fields, IsName f.name
  fieldNames_distinct : ∀ e ∈ s.entities, (e.fields.map fun f => Text.foldAscii f.name).Nodup

theorem NamedApart.rename_back (hn : s.NamedApart) (hs : s.Closed) {id : EntityId} {e : Entity}
    (he : s.entity? id = some e) (name : String) :
    (s.updateEntity id fun e => { e with name }).syncForeignKeys.renameEntity id e.name = .ok s := by
  have hmem := mem_of_entity? he
  obtain ⟨e', he', -⟩ := exists_entity?_syncForeignKeys_updateEntity (s := s)
    (g := fun e => { e with name }) he fun _ => rfl
  have hfree : (s.updateEntity id fun e => { e with name }).syncForeignKeys.nameTaken e.name
      (some id) = false := by
    rw [← nameTaken_bare, bare_syncForeignKeys, nameTaken_bare]
    refine List.any_eq_false.2 fun other hother => ?_
    rcases mem_updateEntity hother hs.toReferential with ⟨hold, hne⟩ | ⟨old, -, hid, rfl⟩
    · have hdiffer : Text.foldAscii other.name ≠ Text.foldAscii e.name := fun hsame => by
        have heq := List.inj_on_of_nodup_map hn.entityNames_distinct hold hmem hsame
        exact hne (heq ▸ id_of_entity? he)
      simp [Text.sameName, hdiffer]
    · simp [hid]
  rw [renameEntity_eq (hn.entityNames e hmem) he' hfree]
  exact congrArg Except.ok (hs.synced.updateEntity_cancel (Entity.isBlind_rename e.name) he
    (fun _ => rfl) rfl)

theorem NamedApart.replaceField_back (hn : s.NamedApart) (hs : s.Closed) {entity : EntityId}
    {id : FieldId} {e : Entity} {old : Field} (he : s.entity? entity = some e)
    (hold : e.field? id = some old) {field : Field} (hid : field.id = id) :
    (s.updateEntity entity fun e => e.updateField id fun _ => field).syncForeignKeys.replaceField
      entity id old = .ok s := by
  have hmem := mem_of_entity? he
  have holdId := Entity.id_of_field? hold
  obtain ⟨e', he', hbare⟩ := exists_entity?_syncForeignKeys_updateEntity (s := s)
    (g := fun e => e.updateField id fun _ => field) he fun _ => rfl
  have hput : (e.updateField id fun _ => field).field? id = some field := by
    rw [Entity.field?, Entity.updateField, find?_updateFirst]
    · rw [Entity.field?] at hold
      rw [hold, Option.map_some]
    · simp [hid]
  have hfound : (e'.field? id).isSome = true := by
    rw [← Option.isSome_map (f := Field.clearReference), ← Entity.field?_bare, hbare,
      Entity.field?_bare, hput]
    rfl
  have hfree : e'.nameTaken old.name (some id) = false := by
    rw [← Entity.nameTaken_bare, hbare, Entity.nameTaken_bare]
    refine List.any_eq_false.2 fun other hother => ?_
    rcases mem_updateFirst hother with hkept | ⟨-, -, rfl⟩
    · by_cases hotherId : other.id = id
      · simp [hotherId]
      · have hdiffer : Text.foldAscii other.name ≠ Text.foldAscii old.name := fun hsame => by
          have heq := List.inj_on_of_nodup_map (hn.fieldNames_distinct e hmem) hkept
            (Entity.mem_of_field? hold) hsame
          exact hotherId (heq ▸ holdId)
        simp [Text.sameName, hdiffer]
    · simp [hid]
  have hname := hn.fieldNames e hmem old (Entity.mem_of_field? hold)
  have hsame : { old with id } = old := by rw [← holdId]
  rw [replaceField_eq hname he' hfound hfree, hsame]
  refine congrArg Except.ok (hs.synced.updateEntity_cancel (Entity.isBlind_putField id old) he
    (fun _ => rfl) ?_)
  have hfields : updateFirst (·.id == id) (fun _ => old)
      (updateFirst (·.id == id) (fun _ => field) e.fields) = e.fields :=
    updateFirst_cancel hold (by simp [hid]) rfl
  simp only [Entity.updateField, hfields]

theorem setCardinality_back {id : RelationshipId} {r : Relationship}
    (h : s.relationship? id = some r) (cardinality : Cardinality) :
    (s.withCardinality id cardinality).setCardinality id r.cardinality = .ok s := by
  have hfind : (s.withCardinality id cardinality).relationship? id =
      some { r with cardinality } :=
    (find?_updateFirst (fun r : Relationship => r.id == id) (fun r => { r with cardinality })
      (fun _ hr => hr) s.relationships).trans (congrArg _ h)
  have hid : (r.id == id) = true :=
    List.find?_some (p := fun r : Relationship => r.id == id) h
  rw [setCardinality_eq hfind]
  refine congrArg Except.ok (ext_of ?_ ?_)
  · rfl
  · exact updateFirst_cancel (f := fun r' : Relationship =>
      { r' with cardinality := r.cardinality }) h hid rfl

theorem moveEntity_back {id : EntityId} {e : Entity} (he : s.entity? id = some e)
    (position : Position) :
    (s.updateEntity id fun e => { e with position }).moveEntity id e.position = .ok s := by
  have hfind : (s.updateEntity id fun e => { e with position }).entity? id =
      some { e with position } := by
    rw [entity?_updateEntity (f := fun e => { e with position }) (fun _ => rfl), if_pos rfl, he,
      Option.map_some]
  rw [moveEntity_eq hfind]
  exact congrArg Except.ok (updateEntity_cancel (f := fun e' => { e' with position := e.position })
    he (fun _ => rfl) rfl)

end Schema

/-! ## Opposites -/

namespace Operation

/-- Whether the operation takes something away. -/
def isDeletion : Operation → Bool
  | deleteEntity _ | deleteField .. | deleteRelationship _ => true
  | _ => false

/-- The operation that takes back another one, which was performed on a schema and has reported
what it was about: what is new is deleted, and what has changed is given its old value. -/
def opposite? (s : Schema) : Operation → Outcome → Option Operation
  | addEntity, .createdEntity id => some (deleteEntity id)
  | addEntityNamed _, .createdEntity id => some (deleteEntity id)
  | addField entity _, .createdField id => some (deleteField entity id)
  | connect _, .createdRelationship id => some (deleteRelationship id)
  | renameEntity id _, .changed => (s.entity? id).map fun e => renameEntity id e.name
  | moveEntity id _, .changed => (s.entity? id).map fun e => moveEntity id e.position
  | replaceField entity id _, .changed =>
    (s.endpoint? ⟨entity, id⟩).map fun (_, f) => replaceField entity id f
  | setCardinality id _, .changed =>
    (s.relationship? id).map fun r => setCardinality id r.cardinality
  | _, _ => none

end Operation

/-- Every accepted operation that is no deletion has an opposite, which is accepted and leads back
to exactly the schema before. -/
theorem opposite_cancels {s : Schema} (hs : s.Closed) (hn : s.NamedApart) {ids : IdSupply}
    (hfresh : ids.Fresh s) {op : Operation} (hop : op.isDeletion = false) {p : Performed}
    (h : op.perform s ids = .ok p) :
    ∃ back q, op.opposite? s p.outcome = some back ∧ back.perform p.schema p.ids = .ok q ∧
      q.schema = s := by
  have href := hs.toReferential
  cases op with
  | addEntity =>
      obtain rfl := Except.ok.inj h
      have hback := href.delete_new hs.synced (e := s.newEntity s.freeName ids.entity ids.field)
        hfresh.entity
      exact ⟨_, _, rfl, congrArg (Except.map _) hback, rfl⟩
  | addEntityNamed name =>
      rw [Operation.perform] at h
      obtain ⟨t, ht, rfl⟩ := exists_of_map_eq_ok h
      obtain ⟨stored, -, -, rfl⟩ := Schema.addEntityNamed_eq_ok ht
      have hback := href.delete_new hs.synced (e := s.newEntity stored ids.entity ids.field)
        hfresh.entity
      exact ⟨_, _, rfl, congrArg (Except.map _) hback, rfl⟩
  | deleteEntity id => cases hop
  | renameEntity id name =>
      rw [Operation.perform] at h
      obtain ⟨t, ht, rfl⟩ := exists_of_map_eq_ok h
      obtain ⟨e, he⟩ := Schema.exists_entity?_of_renameEntity ht
      obtain ⟨stored, -, -, rfl⟩ := Schema.renameEntity_eq_ok ht
      refine ⟨.renameEntity id e.name, ⟨.changed, s, ids⟩, ?_, ?_, rfl⟩
      · rw [Operation.opposite?, he, Option.map_some]
      · rw [Operation.perform, hn.rename_back hs he stored]
        rfl
  | moveEntity id position =>
      rw [Operation.perform] at h
      obtain ⟨t, ht, rfl⟩ := exists_of_map_eq_ok h
      obtain ⟨e, he⟩ := Schema.exists_entity?_of_moveEntity ht
      obtain rfl := Except.ok.inj ((Schema.moveEntity_eq he).symm.trans ht)
      refine ⟨.moveEntity id e.position, ⟨.changed, s, ids⟩, ?_, ?_, rfl⟩
      · rw [Operation.opposite?, he, Option.map_some]
      · rw [Operation.perform, Schema.moveEntity_back he position]
        rfl
  | addField entity field =>
      rw [Operation.perform] at h
      obtain ⟨t, ht, rfl⟩ := exists_of_map_eq_ok h
      obtain ⟨stored, e, -, he, -, rfl⟩ := Schema.addField_eq_ok ht
      obtain ⟨removed, hback⟩ := href.deleteField_new hs.synced
        { field with id := ids.field, name := stored } he
        (hn.fields e (Schema.mem_of_entity? he)) hfresh.field
      exact ⟨_, _, rfl, congrArg (Except.map _) hback, rfl⟩
  | replaceField entity id field =>
      rw [Operation.perform] at h
      obtain ⟨t, ht, rfl⟩ := exists_of_map_eq_ok h
      obtain ⟨stored, e, -, he, -, heq⟩ := Schema.replaceField_eq_ok ht
      obtain ⟨old, hold⟩ := Schema.exists_field?_of_replaceField he ht
      obtain rfl := heq
      have hend : s.endpoint? ⟨entity, id⟩ = some (e, old) :=
        (Schema.endpoint?_eq_some_iff _).2 ⟨he, hold⟩
      refine ⟨.replaceField entity id old, ⟨.changed, s, ids⟩, ?_, ?_, rfl⟩
      · rw [Operation.opposite?, hend, Option.map_some]
      · rw [Operation.perform, hn.replaceField_back hs he hold rfl]
        rfl
  | deleteField entity id => cases hop
  | connect connection =>
      rw [Operation.perform] at h
      obtain ⟨t, ht, rfl⟩ := exists_of_map_eq_ok h
      obtain ⟨r, hid, -, -, -, rfl⟩ := Schema.connect_eq_ok ht
      have hback := hs.synced.disconnect_new (r := r) (hid ▸ hfresh.relationship)
      rw [hid] at hback
      exact ⟨_, _, rfl, congrArg (Except.map _) hback, rfl⟩
  | deleteRelationship id => cases hop
  | setCardinality id cardinality =>
      rw [Operation.perform] at h
      obtain ⟨t, ht, rfl⟩ := exists_of_map_eq_ok h
      obtain ⟨r, hr⟩ := Schema.exists_relationship?_of_setCardinality ht
      obtain rfl := Schema.setCardinality_eq_ok ht
      refine ⟨.setCardinality id r.cardinality, ⟨.changed, s, ids⟩, ?_, ?_, rfl⟩
      · rw [Operation.opposite?, hr, Option.map_some]
      · rw [Operation.perform, Schema.setCardinality_back hr cardinality]
        rfl

/-- The references to a renamed table follow it, and follow it back. -/
theorem opposite_cancels_shop :
    ∃ p q, (Operation.renameEntity ⟨"e2"⟩ "clients").perform Schema.shop.syncForeignKeys {} = .ok p ∧
      p.schema.entities.map (·.fields.map (·.references)) =
        [[none, some ⟨"clients", "id"⟩], [none, some ⟨"clients", "id"⟩]] ∧
      (Operation.renameEntity ⟨"e2"⟩ "customers").perform p.schema p.ids = .ok q ∧
      q.schema = Schema.shop.syncForeignKeys := by
  have href : Schema.shop.Referential := ⟨by decide, by decide, by decide, by decide⟩
  have hs : Schema.shop.syncForeignKeys.Closed := href.closed_syncForeignKeys
  have hn : Schema.shop.syncForeignKeys.NamedApart :=
    ⟨by decide, by decide, by decide, by decide, by decide⟩
  have hfresh : IdSupply.Fresh {} Schema.shop.syncForeignKeys :=
    ⟨by decide, by decide, by decide⟩
  have hp : (Operation.renameEntity ⟨"e2"⟩ "clients").perform Schema.shop.syncForeignKeys {} =
      .ok ⟨.changed, (Schema.shop.syncForeignKeys.updateEntity ⟨"e2"⟩ fun e =>
        { e with name := "clients" }).syncForeignKeys, {}⟩ := rfl
  obtain ⟨back, q, hback, hq, heq⟩ := opposite_cancels hs hn hfresh rfl hp
  obtain rfl : Operation.renameEntity ⟨"e2"⟩ "customers" = back := Option.some.inj hback
  exact ⟨_, q, hp, by decide, hq, heq⟩

end EntityRelation
