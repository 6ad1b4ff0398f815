import EntityRelation.Proofs.Schema.WellFormed

/-!
# Places do not matter

`Schema.unplaced` is a schema with all its tables at the origin. Whether a schema is closed or
well-formed can be seen from it, so tables may be moved at will: two schemas that differ in places
only are both closed, or well-formed, or neither is.
-/

namespace EntityRelation

theorem filterMap_updateFirst {α β : Type} (p : α → Bool) (f : α → α) (g : α → Option β)
    (h : ∀ a, g (f a) = g a) (as : List α) :
    (updateFirst p f as).filterMap g = as.filterMap g := by
  induction as with
  | nil => rfl
  | cons a rest ih =>
      rw [updateFirst_cons]
      by_cases ha : p a
      · simp [ha, List.filterMap_cons, h]
      · simp [ha, List.filterMap_cons, ih]

/-- A change of the first match commutes with a map that the match and the change do not see. -/
theorem map_updateFirst_comm {α : Type} (p : α → Bool) (f g : α → α) (hp : ∀ a, p (g a) = p a)
    (hf : ∀ a, g (f a) = f (g a)) (as : List α) :
    (updateFirst p f as).map g = updateFirst p f (as.map g) := by
  induction as with
  | nil => rfl
  | cons a rest ih =>
      rw [List.map_cons, updateFirst_cons, updateFirst_cons, hp]
      by_cases ha : p a
      · simp [ha, hf]
      · simp [ha, ih]

/-- The entity at the origin. -/
def Entity.unplaced (e : Entity) : Entity :=
  { e with position := .origin }

namespace Entity

@[simp] theorem unplaced_id (e : Entity) : e.unplaced.id = e.id := rfl

@[simp] theorem unplaced_name (e : Entity) : e.unplaced.name = e.name := rfl

@[simp] theorem unplaced_fields (e : Entity) : e.unplaced.fields = e.fields := rfl

@[simp] theorem field?_unplaced (e : Entity) (id : FieldId) :
    e.unplaced.field? id = e.field? id := rfl

theorem eq_of_unplaced {e e' : Entity} (h : e.unplaced = e'.unplaced)
    (hp : e.position = e'.position) : e = e' := by
  obtain ⟨id, name, fields, position⟩ := e
  obtain ⟨id', name', fields', position'⟩ := e'
  simp only [unplaced, Entity.mk.injEq, and_true] at h hp ⊢
  exact ⟨h.1, h.2.1, h.2.2, hp⟩

end Entity

namespace Schema

/-- The schema with all its tables at the origin. -/
def unplaced (s : Schema) : Schema :=
  { s with entities := s.entities.map Entity.unplaced }

variable {s t : Schema}

@[simp] theorem unplaced_entities (s : Schema) :
    s.unplaced.entities = s.entities.map Entity.unplaced := rfl

@[simp] theorem unplaced_relationships (s : Schema) :
    s.unplaced.relationships = s.relationships := rfl

theorem entity?_unplaced (s : Schema) (id : EntityId) :
    s.unplaced.entity? id = (s.entity? id).map Entity.unplaced := by
  rw [entity?, unplaced_entities, List.find?_map]
  rfl

theorem endpoint?_unplaced (s : Schema) (p : Endpoint) :
    s.unplaced.endpoint? p = (s.endpoint? p).map fun (e, f) => (e.unplaced, f) := by
  simp only [endpoint?, entity?_unplaced]
  cases s.entity? p.entity with
  | none => rfl
  | some e =>
      simp only [Option.map_some, bind, Option.bind_some, Entity.field?_unplaced]
      cases e.field? p.field with
      | none => rfl
      | some f => rfl

theorem references_unplaced (s : Schema) : s.unplaced.references = s.references := by
  refine List.filterMap_congr fun r _ => ?_
  simp only [reference?, resolve?, endpoint?_unplaced]
  cases s.endpoint? r.parent with
  | none => rfl
  | some p =>
      cases s.endpoint? r.child with
      | none => rfl
      | some c => rfl

theorem unplaced_markReference (s : Schema) (claim : Endpoint × ColumnName) :
    (s.markReference claim).unplaced = s.unplaced.markReference claim :=
  ext_of (map_updateFirst_comm (fun e : Entity => e.id == claim.1.entity)
    (fun e : Entity => e.updateField claim.1.field (·.markReference claim.2)) Entity.unplaced
    (fun _ => rfl) (fun _ => rfl) s.entities) rfl

theorem unplaced_foldl_markReference (claims : List (Endpoint × ColumnName)) (s : Schema) :
    (claims.foldl markReference s).unplaced = claims.foldl markReference s.unplaced := by
  induction claims generalizing s with
  | nil => rfl
  | cons claim claims ih =>
      rw [List.foldl_cons, List.foldl_cons, ih, unplaced_markReference]

theorem unplaced_syncForeignKeys (s : Schema) :
    s.syncForeignKeys.unplaced = s.unplaced.syncForeignKeys := by
  rw [syncForeignKeys, syncForeignKeys, unplaced_foldl_markReference, references_unplaced]
  refine congrArg (s.references.foldl markReference) (ext_of ?_ rfl)
  simp [mapFields, Entity.unplaced, Function.comp_def]

theorem map_position_syncForeignKeys (s : Schema) :
    s.syncForeignKeys.entities.map Entity.position = s.entities.map Entity.position := by
  have hbare : ∀ u : Schema, u.bare.entities.map Entity.position =
      u.entities.map Entity.position := by
    intro u
    simp [Function.comp_def, Entity.bare]
  rw [← hbare, bare_syncForeignKeys, hbare]

theorem entities_eq_of_unplaced {as bs : List Entity}
    (h : as.map Entity.unplaced = bs.map Entity.unplaced)
    (hp : as.map Entity.position = bs.map Entity.position) : as = bs := by
  have hinj : Function.Injective fun e : Entity => (e.unplaced, e.position) := by
    intro e e' he
    obtain ⟨h1, h2⟩ := Prod.mk.inj he
    exact Entity.eq_of_unplaced h1 h2
  have hzip : as.map (fun e => (e.unplaced, e.position)) =
      bs.map fun e => (e.unplaced, e.position) := by
    rw [← List.zip_map', ← List.zip_map', h, hp]
  exact hinj.list_map hzip

/-- Tables may be moved in a schema with an up-to-date view. -/
theorem Synced.of_unplaced (hs : s.Synced) (h : t.unplaced = s.unplaced) : t.Synced := by
  refine ext_of (entities_eq_of_unplaced ?_ t.map_position_syncForeignKeys) (by simp)
  change t.syncForeignKeys.unplaced.entities = t.unplaced.entities
  rw [unplaced_syncForeignKeys, h, ← unplaced_syncForeignKeys, hs]

theorem referential_unplaced : s.unplaced.Referential ↔ s.Referential := by
  constructor
  · rintro ⟨he, hf, hr, hres⟩
    refine ⟨by simpa [Function.comp_def] using he, fun e hmem => ?_, hr, fun r hmem => ?_⟩
    · exact hf e.unplaced (List.mem_map_of_mem hmem)
    · have h := hres r hmem
      rw [resolve?_isSome_iff, endpoint?_unplaced, endpoint?_unplaced] at h
      simpa [resolve?_isSome_iff] using h
  · rintro ⟨he, hf, hr, hres⟩
    refine ⟨by simpa [Function.comp_def] using he, fun e hmem => ?_, hr, fun r hmem => ?_⟩
    · obtain ⟨e, he', rfl⟩ := List.mem_map.1 hmem
      exact hf e he'
    · rw [resolve?_isSome_iff, endpoint?_unplaced, endpoint?_unplaced]
      simpa [resolve?_isSome_iff] using hres r hmem

theorem named_unplaced : s.unplaced.Named ↔ s.Named := by
  constructor
  · rintro ⟨hne, hn, hd, hfn, hfd, hl⟩
    exact ⟨fun e he => hne e.unplaced (List.mem_map_of_mem he),
      fun e he => hn e.unplaced (List.mem_map_of_mem he),
      by simpa [Function.comp_def] using hd,
      fun e he => hfn e.unplaced (List.mem_map_of_mem he),
      fun e he => hfd e.unplaced (List.mem_map_of_mem he), hl⟩
  · rintro ⟨hne, hn, hd, hfn, hfd, hl⟩
    refine ⟨fun e he => ?_, fun e he => ?_, by simpa [Function.comp_def] using hd,
      fun e he => ?_, fun e he => ?_, hl⟩ <;> obtain ⟨e, he', rfl⟩ := List.mem_map.1 he
    · exact hne e he'
    · exact hn e he'
    · exact hfn e he'
    · exact hfd e he'

theorem Referential.of_unplaced (hs : s.Referential) (h : t.unplaced = s.unplaced) :
    t.Referential :=
  referential_unplaced.1 (h ▸ referential_unplaced.2 hs)

theorem Named.of_unplaced (hs : s.Named) (h : t.unplaced = s.unplaced) : t.Named :=
  named_unplaced.1 (h ▸ named_unplaced.2 hs)

theorem Closed.of_unplaced (hs : s.Closed) (h : t.unplaced = s.unplaced) : t.Closed :=
  ⟨hs.toReferential.of_unplaced h, hs.synced.of_unplaced h⟩

theorem unplaced_updateEntity (s : Schema) (id : EntityId) (f : Entity → Entity)
    (h : ∀ e, (f e).unplaced = e.unplaced) : (s.updateEntity id f).unplaced = s.unplaced :=
  ext_of (map_updateFirst _ f Entity.unplaced h s.entities) rfl

end Schema

end EntityRelation
