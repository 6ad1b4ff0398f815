import EntityRelation.Proofs.Session.Closed

/-!
# Sessions in step with their relationships

An id stands for the first element that bears it, so an edit may be followed by what it does to
look-ups, and ids need not be distinct. A schema is in step when its relationships resolve and its
foreign key view is up to date. All edits keep it so whichever ids they take
(`SessionEdit.inStep_of_perform`), and a schema that a session holds was there before or is one that
an edit, a service or an opened project gives (`Workspace.held_of_perform`). Hence recomputing the
view of a saved schema, as it is done when the project is opened, changes nothing.
-/

namespace EntityRelation

/-- A field that is put in the place of another one of its id is found as that one was. -/
theorem Entity.field?_putField {e : Entity} (field : Field) {k : FieldId}
    (h : (e.field? k).isSome) :
    ((e.updateField field.id fun _ => field).field? k).isSome := by
  rw [field?, updateField]
  by_cases hk : k = field.id
  · rw [hk, find?_updateFirst (·.id == field.id) (fun _ => field) (fun _ _ => beq_self_eq_true _),
      Option.isSome_map, ← hk]
    exact h
  · rw [find?_updateFirst_key_of_ne hk fun _ _ => rfl]
    exact h

namespace Schema

variable {s t : Schema}

/-- Every relationship resolves, and the foreign key view is up to date. -/
structure InStep (s : Schema) : Prop where
  resolves : ∀ r ∈ s.relationships, (s.resolve? r).isSome
  synced : s.Synced

theorem Closed.inStep (h : s.Closed) : s.InStep :=
  ⟨h.resolves, h.synced⟩

/-! ## Look-ups after a change -/

theorem endpoint?_updateEntity {id : EntityId} {f : Entity → Entity} (hid : ∀ e, (f e).id = e.id)
    {p : Endpoint} (hfield : p.entity = id → ∀ e : Entity, (e.field? p.field).isSome →
      ((f e).field? p.field).isSome) (h : (s.endpoint? p).isSome) :
    ((s.updateEntity id f).endpoint? p).isSome := by
  obtain ⟨e, he, hf⟩ := (endpoint?_isSome_iff p).1 h
  rw [endpoint?_isSome_iff, entity?_updateEntity hid, he]
  by_cases hp : p.entity = id
  · exact ⟨f e, if_pos hp, hfield hp e hf⟩
  · exact ⟨e, if_neg hp, hf⟩

/-- Relationships that were there resolve as long as their ends are found. -/
theorem resolves_of_ends (h : ∀ r ∈ s.relationships, (s.resolve? r).isSome)
    (hends : ∀ r ∈ t.relationships, r ∈ s.relationships ∧
      ∀ p, p = r.parent ∨ p = r.child → (s.endpoint? p).isSome → (t.endpoint? p).isSome) :
    ∀ r ∈ t.relationships, (t.resolve? r).isSome := by
  intro r hr
  obtain ⟨hold, hend⟩ := hends r hr
  obtain ⟨hp, hc⟩ := (resolve?_isSome_iff r).1 (h r hold)
  exact (resolve?_isSome_iff r).2 ⟨hend _ (.inl rfl) hp, hend _ (.inr rfl) hc⟩

theorem inStep_syncForeignKeys (h : ∀ r ∈ s.relationships, (s.resolve? r).isSome) :
    s.syncForeignKeys.InStep := by
  refine ⟨resolves_of_ends h fun r hr => ⟨?_, fun p _ hp => ?_⟩, s.synced_syncForeignKeys⟩
  · rwa [relationships_syncForeignKeys] at hr
  · have hbare : (s.syncForeignKeys.bare.endpoint? p).isSome := by
      rw [bare_syncForeignKeys, endpoint?_bare, Option.isSome_map]
      exact hp
    rwa [endpoint?_bare, Option.isSome_map] at hbare

theorem InStep.of_unplaced (h : s.InStep) (hplace : t.unplaced = s.unplaced) : t.InStep := by
  refine ⟨resolves_of_ends h.resolves fun r hr => ⟨?_, fun p _ hp => ?_⟩,
    h.synced.of_unplaced hplace⟩
  · rwa [← unplaced_relationships, hplace] at hr
  · have hsome : (t.unplaced.endpoint? p).isSome := by
      rw [hplace, endpoint?_unplaced, Option.isSome_map]
      exact hp
    rwa [endpoint?_unplaced, Option.isSome_map] at hsome

/-! ## Operations -/

theorem InStep.updateEntity (h : s.InStep) {id : EntityId} {f : Entity → Entity}
    (hid : ∀ e, (f e).id = e.id)
    (hfield : ∀ (e : Entity) k, (e.field? k).isSome → ((f e).field? k).isSome) :
    (s.updateEntity id f).syncForeignKeys.InStep :=
  inStep_syncForeignKeys <| resolves_of_ends h.resolves fun _ hr =>
    ⟨hr, fun _ _ => endpoint?_updateEntity hid fun _ e => hfield e _⟩

theorem InStep.pushEntity (h : s.InStep) {e : Entity} (he : e.bare = e) :
    (s.pushEntity e).InStep := by
  refine ⟨fun r hr => ?_, h.synced.pushEntity h.resolves he⟩
  rw [resolve?_pushEntity e (h.resolves r hr)]
  exact h.resolves r hr

theorem InStep.withoutEntity (h : s.InStep) (id : EntityId) :
    (s.withoutEntity id).syncForeignKeys.InStep := by
  refine inStep_syncForeignKeys (resolves_of_ends h.resolves fun r hr => ?_)
  obtain ⟨hold, huntouched⟩ := List.mem_filter.1 hr
  have hne : r.parent.entity ≠ id ∧ r.child.entity ≠ id := by
    simpa [Relationship.touches] using huntouched
  refine ⟨hold, fun p hp hend => ?_⟩
  have hother : p.entity ≠ id := by
    rcases hp with rfl | rfl
    · exact hne.1
    · exact hne.2
  have hentity : (s.withoutEntity id).entity? p.entity = s.entity? p.entity :=
    find?_eraseFirst_key_of_ne hother s.entities
  rw [endpoint?_isSome_iff] at hend ⊢
  rwa [hentity]

theorem InStep.withoutField (h : s.InStep) (entity : EntityId) (id : FieldId) :
    (s.withoutField entity id).syncForeignKeys.InStep := by
  refine inStep_syncForeignKeys (resolves_of_ends h.resolves fun r hr => ?_)
  obtain ⟨hold, hunbound⟩ := List.mem_filter.1 hr
  have hne : r.parent ≠ ⟨entity, id⟩ ∧ r.child ≠ ⟨entity, id⟩ := by
    simpa [Relationship.binds] using hunbound
  refine ⟨hold, fun p hp hend => ?_⟩
  have hother : p ≠ ⟨entity, id⟩ := by
    rcases hp with rfl | rfl
    · exact hne.1
    · exact hne.2
  refine endpoint?_updateEntity (s := s)
    (f := fun e => { e with fields := eraseFirst (·.id == id) e.fields }) (fun _ => rfl)
    (fun hentity e hf => ?_) hend
  have hfield : p.field ≠ id := fun hfield => hother (by rw [← hentity, ← hfield])
  rw [Entity.field?] at hf ⊢
  rwa [find?_eraseFirst_key_of_ne hfield]

theorem InStep.pushRelationship (h : s.InStep) {r : Relationship}
    (hp : (s.endpoint? r.parent).isSome) (hc : (s.endpoint? r.child).isSome) :
    (s.pushRelationship r).syncForeignKeys.InStep := by
  refine inStep_syncForeignKeys fun r' hr' => ?_
  rcases List.mem_append.1 hr' with hold | hnew
  · exact h.resolves r' hold
  · obtain rfl := List.mem_singleton.1 hnew
    exact (resolve?_isSome_iff r').2 ⟨hp, hc⟩

theorem InStep.withoutRelationship (h : s.InStep) (id : RelationshipId) :
    (s.withoutRelationship id).syncForeignKeys.InStep :=
  inStep_syncForeignKeys fun r hr => h.resolves r ((eraseFirst_sublist _ _).subset hr)

theorem InStep.withCardinality (h : s.InStep) (id : RelationshipId) (cardinality : Cardinality) :
    (s.withCardinality id cardinality).InStep := by
  refine ⟨fun r hr => ?_, h.synced.withCardinality id cardinality⟩
  rcases mem_updateFirst hr with hold | ⟨r, hold, rfl⟩
  · exact h.resolves r hold
  · exact h.resolves r hold

end Schema

theorem Operation.inStep_of_perform {s : Schema} {ids : IdSupply} {op : Operation} {p : Performed}
    (hs : s.InStep) (h : op.perform s ids = .ok p) : p.schema.InStep := by
  cases Transition.of_perform h with
  | addEntity | addEntityNamed _ _ => exact hs.pushEntity (Schema.bare_newEntity ..)
  | deleteEntity _ => exact hs.withoutEntity _
  | renameEntity _ _ _ => exact hs.updateEntity (fun _ => rfl) fun _ _ hf => hf
  | @moveEntity id position _ _ =>
      exact hs.of_unplaced
        (s.unplaced_updateEntity id (fun e => { e with position }) fun _ => rfl)
  | addField _ _ _ =>
      refine hs.updateEntity (fun _ => rfl) fun e k hf => ?_
      rw [Entity.field?] at hf ⊢
      rw [List.find?_append, Option.isSome_or, hf]
      rfl
  | @replaceField entity id field _ stored _ _ _ _ _ =>
      exact hs.updateEntity (fun _ => rfl) fun _ _ hf =>
        Entity.field?_putField { field with id, name := stored } hf
  | deleteField _ _ _ => exact hs.withoutField _ _
  | connect _ parent child _ => exact hs.pushRelationship parent child
  | deleteRelationship _ => exact hs.withoutRelationship _
  | setCardinality _ => exact hs.withCardinality _ _

/-- Edits keep a schema in step, whichever ids they take. -/
theorem SessionEdit.inStep_of_perform {s t : Schema} {ids left : IdSupply} {edit : SessionEdit}
    (hs : s.InStep) (h : edit.perform s ids = .ok (t, left)) : t.InStep := by
  cases edit with
  | replaceScript sql =>
      rw [perform] at h
      split at h
      · cases h
      · next report hreport =>
        obtain ⟨rfl, -⟩ := Prod.mk.inj (Except.ok.inj h)
        exact (Ddl.closed_of_importScript hreport).inStep.of_unplaced (Schema.unplaced_keepPlaces s _)
  | operation op =>
      rw [perform] at h
      split at h
      · cases h
      · next performed hperformed =>
        obtain ⟨rfl, -⟩ := Prod.mk.inj (Except.ok.inj h)
        exact Operation.inStep_of_perform hs hperformed
  | arrange a =>
      obtain ⟨rfl, -⟩ := Prod.mk.inj (Except.ok.inj h)
      cases a with
      | grid => exact hs.of_unplaced s.unplaced_arrangeOnGrid
      | force => exact hs.of_unplaced (Schema.unplaced_applyLayout _ s)

/-! ## Sessions -/

/-- The schemas that a session holds: the one that is edited, and those to go back or forward to. -/
def Session.held (s : Session) : List Schema :=
  s.schema :: (s.history.past ++ s.history.future)

/-- The schemas that a session holds are in step. -/
def Session.InStep (s : Session) : Prop :=
  ∀ t ∈ s.held, t.InStep

/-- Where a schema is from that a step brings into a session. -/
inductive Workspace.Brings (w : Workspace) : Schema → Prop where
  | edited {edit : SessionEdit} {ids left : IdSupply} {t : Schema}
      (performed : edit.perform w.session.schema ids = .ok (t, left)) : Brings w t
  | generated {prompt : String} {answer : ServiceAnswer} {g : Generated}
      (accepted : Generated.ofAnswer prompt answer = .ok g) : Brings w g.schema
  | opened {p : Project} (stored : p ∈ w.repository.projects) : Brings w p.schema.syncForeignKeys

namespace Session

variable {s s' : Session} {t : Schema}

theorem held_replace {next : Schema} (h : t ∈ (s.replace next).held) : t = next ∨ t ∈ s.held := by
  rcases List.mem_cons.1 h with rfl | h
  · exact .inl rfl
  · rw [replace, History.future_push, List.append_nil] at h
    rcases List.mem_cons.1 (List.mem_of_mem_take h) with rfl | hpast
    · exact .inr List.mem_cons_self
    · exact .inr (List.mem_cons_of_mem _ (List.mem_append_left _ hpast))

theorem held_undo? (hundo : s.undo? = some s') (h : t ∈ s'.held) : t ∈ s.held := by
  obtain ⟨previous, past, hpast, rfl⟩ := undo?_eq_some_iff.1 hundo
  simp only [held, hpast, List.mem_cons, List.mem_append] at h ⊢
  tauto

theorem held_redo? (hredo : s.redo? = some s') (h : t ∈ s'.held) : t ∈ s.held := by
  obtain ⟨next, future, hfuture, rfl⟩ := redo?_eq_some_iff.1 hredo
  simp only [held, hfuture, List.mem_cons, List.mem_append] at h ⊢
  tauto

theorem inStep_new (config : Config) : (new config).InStep := by
  intro t ht
  obtain rfl := List.mem_singleton.1 ht
  exact Schema.closed_empty.inStep

end Session

namespace Workspace

variable {w w' : Workspace} {step : SessionStep} {answer : SessionAnswer} {t : Schema}

/-- A schema that a session holds after a step was there before, or the step brings it. -/
theorem held_of_perform (hstep : w.perform step = .ok (answer, w')) (h : t ∈ w'.session.held) :
    t ∈ w.session.held ∨ w.Brings t := by
  cases Transition.of_perform hstep with
  | apply edited =>
      rcases Session.held_replace h with rfl | hold
      · exact .inr (.edited edited)
      · exact .inl hold
  | undo earlier => exact .inl (Session.held_undo? earlier h)
  | redo later => exact .inl (Session.held_redo? later h)
  | generate accepted =>
      rcases Session.held_replace h with rfl | hold
      · exact .inr (.generated accepted)
      · exact .inl hold
  | openProject found =>
      obtain rfl := List.mem_singleton.1 h
      exact .inr (.opened (List.mem_of_find?_eq_some found))
  | _ => exact .inl h

/-- The schemas of a session stay in step, as long as those of the stored projects are. -/
theorem inStep_of_perform (hsession : w.session.InStep)
    (hstored : ∀ p ∈ w.repository.projects, p.schema.InStep)
    (hstep : w.perform step = .ok (answer, w')) : w'.session.InStep := by
  intro t ht
  rcases held_of_perform hstep ht with hold | hbrings
  · exact hsession t hold
  · cases hbrings with
    | edited performed =>
        exact SessionEdit.inStep_of_perform (hsession _ List.mem_cons_self) performed
    | generated accepted => exact (Generated.closed_of_ofAnswer accepted).inStep
    | opened stored => exact Schema.inStep_syncForeignKeys (hstored _ stored).resolves

end Workspace

end EntityRelation
