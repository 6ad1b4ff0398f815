import EntityRelation.Proofs.Ddl.Numbering
import EntityRelation.Proofs.Edit.Operation
import EntityRelation.Proofs.Session.Transition
import EntityRelation.Proofs.Validation.Referential

/-!
# Sessions hold closed schemas

Schemas come into a session from three sides: from operations on the schema that is there, from a
script, and from an answer of the service. All of them are closed. Whatever the steps of a session
are, its schema and the schemas that it can go back or forward to are then closed
(`reachable_closed`), and so are those of the projects that it saves and opens.
-/

namespace EntityRelation

namespace Schema

/-! ## Arrangements -/

theorem unplaced_keepPlaces (previous next : Schema) :
    (previous.keepPlaces next).unplaced = next.unplaced := by
  refine ext_of ?_ rfl
  simp only [keepPlaces, unplaced_entities, List.map_map]
  refine List.map_congr_left fun e _ => ?_
  simp only [Function.comp_apply]
  split
  · rfl
  · rfl

theorem unplaced_arrangeOnGrid (s : Schema) : s.arrangeOnGrid.unplaced = s.unplaced := by
  refine ext_of (List.ext_getElem? fun i => ?_) rfl
  simp only [arrangeOnGrid, unplaced_entities, List.getElem?_map, List.getElem?_mapIdx]
  cases s.entities[i]? with
  | none => rfl
  | some e => rfl

theorem unplaced_applyLayout (layout : List (EntityId × Position)) (s : Schema) :
    (s.applyLayout layout).unplaced = s.unplaced := by
  induction layout generalizing s with
  | nil => rfl
  | cons move layout ih =>
      exact (ih _).trans (unplaced_updateEntity s move.1 _ fun _ => rfl)

theorem Closed.arrange {s : Schema} (hs : s.Closed) (a : Arrangement) : (s.arrange a).Closed := by
  cases a with
  | grid => exact hs.of_unplaced s.unplaced_arrangeOnGrid
  | force => exact hs.of_unplaced (unplaced_applyLayout _ s)

theorem closed_empty : Closed {} :=
  ⟨⟨by decide, by decide, by decide, by decide⟩, rfl⟩

end Schema

/-! ## Generated schemas -/

theorem Generated.closed_of_ofEnvelope {e : Envelope} {g : Generated} (h : ofEnvelope e = .ok g) :
    g.schema.Closed := by
  rw [ofEnvelope] at h
  split at h
  · cases h
  · next hnone =>
    obtain rfl := Except.ok.inj h
    refine ⟨Validator.referential_of_errors {} fun issue hissue => ?_,
      e.schema.synced_syncForeignKeys⟩
    simpa using List.find?_eq_none.1 hnone issue hissue

theorem Generated.closed_of_ofText {text : String} {g : Generated} (h : ofText text = .ok g) :
    g.schema.Closed := by
  rw [ofText] at h
  split at h
  · cases h
  · next answer _ =>
    cases haccept : ofJson answer with
    | error fault =>
        rw [haccept] at h
        cases h
    | ok accepted =>
        rw [haccept] at h
        obtain rfl := Except.ok.inj h
        rw [ofJson] at haccept
        split at haccept
        · cases haccept
        · split at haccept
          · cases haccept
          · exact closed_of_ofEnvelope haccept

/-- A schema that is accepted from a service is closed. -/
theorem Generated.closed_of_ofAnswer {prompt : String} {answer : ServiceAnswer} {g : Generated}
    (h : ofAnswer prompt answer = .ok g) : g.schema.Closed := by
  unfold ofAnswer at h
  split at h
  · cases h
  · cases answer with
    | response text => exact closed_of_ofText h
    | unavailable reason => cases h

/-! ## Edits of a session -/

/-- The ids that an edit would take are fresh, if it takes any. -/
def SessionEdit.TakesFresh (s : Schema) (ids : IdSupply) : SessionEdit → Prop
  | operation _ => ids.Fresh s
  | _ => True

theorem SessionEdit.closed_of_perform {s t : Schema} {ids left : IdSupply} {edit : SessionEdit}
    (hs : s.Closed) (hfresh : edit.TakesFresh s ids) (h : edit.perform s ids = .ok (t, left)) :
    t.Closed := by
  cases edit with
  | replaceScript sql =>
      rw [perform] at h
      split at h
      · cases h
      · next report hreport =>
        obtain ⟨rfl, -⟩ := Prod.mk.inj (Except.ok.inj h)
        exact (Ddl.closed_of_importScript hreport).of_unplaced (Schema.unplaced_keepPlaces s _)
  | operation op =>
      rw [perform] at h
      split at h
      · cases h
      · next performed hperformed =>
        obtain ⟨rfl, -⟩ := Prod.mk.inj (Except.ok.inj h)
        exact (Operation.closed_and_named_of_perform hs hfresh hperformed).1
  | arrange a =>
      obtain ⟨rfl, -⟩ := Prod.mk.inj (Except.ok.inj h)
      exact hs.arrange a

/-! ## Steps of a session -/

/-- The schema of a session and those it can go back or forward to are closed. -/
structure Session.Closed (s : Session) : Prop where
  schema : s.schema.Closed
  past : ∀ t ∈ s.history.past, t.Closed
  future : ∀ t ∈ s.history.future, t.Closed

/-- The schemas of all projects are closed. -/
def Repository.Closed (r : Repository) : Prop :=
  ∀ p ∈ r.projects, p.schema.Closed

/-- The session is closed, and so is what is saved. -/
structure Workspace.Closed (w : Workspace) : Prop where
  session : w.session.Closed
  repository : w.repository.Closed

namespace Session

variable {s : Session}

theorem closed_new (config : Config) : (new config).Closed :=
  ⟨Schema.closed_empty, by simp [new, History.new], by simp [new, History.new]⟩

theorem Closed.replace (h : s.Closed) {next : Schema} (hnext : next.Closed) :
    (s.replace next).Closed := by
  refine ⟨hnext, fun t ht => ?_, fun t ht => nomatch ht⟩
  rcases List.mem_cons.1 (List.mem_of_mem_take ht) with rfl | hold
  · exact h.schema
  · exact h.past t hold

theorem Closed.undo? (h : s.Closed) {s' : Session} (hundo : s.undo? = some s') : s'.Closed := by
  obtain ⟨previous, past, hpast, rfl⟩ := undo?_eq_some_iff.1 hundo
  have hmem : ∀ t ∈ previous :: past, t.Closed := hpast ▸ h.past
  exact ⟨hmem _ List.mem_cons_self, fun t ht => hmem t (List.mem_cons_of_mem _ ht),
    List.forall_mem_cons.2 ⟨h.schema, h.future⟩⟩

theorem Closed.redo? (h : s.Closed) {s' : Session} (hredo : s.redo? = some s') : s'.Closed := by
  obtain ⟨next, future, hfuture, rfl⟩ := redo?_eq_some_iff.1 hredo
  have hmem : ∀ t ∈ next :: future, t.Closed := hfuture ▸ h.future
  exact ⟨hmem _ List.mem_cons_self, List.forall_mem_cons.2 ⟨h.schema, h.past⟩,
    fun t ht => hmem t (List.mem_cons_of_mem _ ht)⟩

theorem Closed.adopt (h : s.Closed) (prompt : String) {g : Generated} (hg : g.schema.Closed) :
    (s.adopt prompt g).Closed :=
  ⟨(h.replace hg).schema, (h.replace hg).past, (h.replace hg).future⟩

end Session

/-! ## Saving and opening projects -/

namespace Repository

variable {r r' : Repository} {p : Project}

theorem Closed.create (h : r.Closed) (draft : ProjectDraft) (hdraft : draft.schema.Closed)
    (hcreate : r.create draft = .ok (p, r')) : r'.Closed := by
  obtain ⟨name, -, hcreate⟩ := exists_of_bind_eq_ok hcreate
  obtain ⟨-, rfl⟩ := Prod.mk.inj (Except.ok.inj hcreate)
  intro q hq
  rcases List.mem_cons.1 hq with rfl | hold
  · exact hdraft
  · exact h q hold

theorem Closed.update (h : r.Closed) {id : ProjectId} {change : ProjectChange}
    (hchange : ∀ t ∈ change.schema, t.Closed) (hupdate : r.update id change = .ok (p, r')) :
    r'.Closed := by
  obtain ⟨name, -, hupdate⟩ := exists_of_bind_eq_ok hupdate
  split at hupdate
  · cases hupdate
  · next old hold =>
    obtain ⟨-, rfl⟩ := Prod.mk.inj (Except.ok.inj hupdate)
    intro q hq
    rcases mem_updateFirst hq with hkept | ⟨-, -, rfl⟩
    · exact h q hkept
    · cases hschema : change.schema with
      | none =>
          simp only [changed, hschema, Option.getD_none]
          exact h old (List.mem_of_find?_eq_some hold)
      | some t =>
          simp only [changed, hschema, Option.getD_some]
          exact hchange t (by rw [hschema]; rfl)

theorem Closed.delete (h : r.Closed) {id : ProjectId} (hdelete : r.delete id = .ok r') :
    r'.Closed := by
  rw [Repository.delete] at hdelete
  split at hdelete
  · cases hdelete
  · obtain rfl := Except.ok.inj hdelete
    exact fun q hq => h q ((eraseFirst_sublist _ _).subset hq)

end Repository

namespace Session

variable {s s' : Session} {r r' : Repository}

theorem Closed.save (h : s.Closed) (hr : r.Closed) {name : String} {p : Project}
    (hsave : s.save r name = .ok (p, s', r')) : s'.Closed ∧ r'.Closed := by
  have hchange : ∀ t ∈ (s.change name).schema, t.Closed := by
    intro t ht
    obtain rfl := Option.some.inj ht
    exact h.schema
  obtain ⟨rfl, hsaved⟩ := save_cases hsave
  refine ⟨⟨h.schema, h.past, h.future⟩, ?_⟩
  rcases hsaved with ⟨id, -, hupdate⟩ | ⟨-, hcreate⟩
  · exact hr.update hchange hupdate
  · exact hr.create (s.draft name) h.schema hcreate

/-- The foreign key view of an opened project is recomputed, so its ids are all that counts. -/
theorem closed_ofProject (config : Config) {p : Project} (hp : p.schema.Referential) :
    (ofProject config p).Closed :=
  ⟨hp.closed_syncForeignKeys, (closed_new config).past, (closed_new config).future⟩

end Session

namespace Workspace

variable {w : Workspace}

theorem closed_new (config : Config) : (new config).Closed :=
  ⟨Session.closed_new config, by simp [Repository.Closed, new]⟩

/-- The ids that a step would take are fresh, if it takes any. -/
def TakesFresh (w : Workspace) : SessionStep → Prop
  | .apply edit => edit.TakesFresh w.session.schema w.ids
  | _ => True

theorem Closed.perform (h : w.Closed) {step : SessionStep} (hfresh : w.TakesFresh step)
    {answer : SessionAnswer} {w' : Workspace} (hstep : w.perform step = .ok (answer, w')) :
    w'.Closed := by
  cases Transition.of_perform hstep with
  | apply edited =>
      have hnext := SessionEdit.closed_of_perform h.session.schema hfresh edited
      exact ⟨h.session.replace hnext, h.repository⟩
  | undo earlier => exact ⟨h.session.undo? earlier, h.repository⟩
  | redo later => exact ⟨h.session.redo? later, h.repository⟩
  | undoNothing _ | redoNothing _ | script | diagram | countProjects => exact h
  | commit _ | setDialect _ =>
      exact ⟨⟨h.session.schema, h.session.past, h.session.future⟩, h.repository⟩
  | @generate prompt _ _ accepted =>
      exact ⟨h.session.adopt prompt (Generated.closed_of_ofAnswer accepted), h.repository⟩
  | save saved =>
      obtain ⟨hsession, hrepository⟩ := h.session.save h.repository saved
      exact ⟨hsession, hrepository⟩
  | openProject found =>
      have hproject := h.repository _ (List.mem_of_find?_eq_some found)
      exact ⟨Session.closed_ofProject _ hproject.toReferential, h.repository⟩
  | deleteProject deleted => exact ⟨h.session, h.repository.delete deleted⟩

theorem Closed.step (h : w.Closed) {step : SessionStep} (hfresh : w.TakesFresh step) :
    (w.step step).Closed := by
  rw [Workspace.step]
  split
  · next hstep => exact h.perform hfresh hstep
  · exact h

/-- The workspaces that sessions get to. Sessions may share a repository, so between two of its
steps a session may meet the repository that another one has left. -/
inductive Reachable : Workspace → Prop where
  | new (config : Config) : Reachable (new config)
  | step {w : Workspace} (step : SessionStep) : Reachable w → w.TakesFresh step →
      Reachable (w.step step)
  | share {w other : Workspace} : Reachable w → Reachable other →
      Reachable { w with repository := other.repository }

theorem Reachable.closed (h : w.Reachable) : w.Closed := by
  induction h with
  | new config => exact closed_new config
  | step step _ hfresh ih => exact ih.step hfresh
  | share _ _ ih ihother => exact ⟨ih.session, ihother.repository⟩

end Workspace

/-- All schemas that a session holds are closed: the one that is edited, and those to go back or
forward to. A step that fails changes nothing. -/
theorem reachable_closed (w : Workspace) (h : w.Reachable) :
    w.session.schema.Closed ∧ (∀ s ∈ w.session.history.past, s.Closed) ∧
      (∀ s ∈ w.session.history.future, s.Closed) ∧
      ∀ step e, w.perform step = .error e → w.step step = w := by
  refine ⟨h.closed.session.schema, h.closed.session.past, h.closed.session.future, ?_⟩
  intro step e hfail
  rw [Workspace.step, hfail]

/-- A workspace in which two tables have been added one after the other. -/
def Workspace.twoTables : Workspace :=
  ((Workspace.new {}).step (.apply (.operation .addEntity))).step (.apply (.operation .addEntity))

/-- The state with one table, to which the session can go back, is closed too. -/
theorem reachable_closed_twoTables :
    Workspace.twoTables.session.history.past.map (·.entities.length) = [1, 0] ∧
      Workspace.twoTables.session.schema.Closed ∧
      ∀ s ∈ Workspace.twoTables.session.history.past, s.Closed := by
  have hfirst : (Workspace.new {}).TakesFresh (.apply (.operation .addEntity)) :=
    (⟨by decide, by decide, by decide⟩ : IdSupply.Fresh {} {})
  have hsecond : ((Workspace.new {}).step (.apply (.operation .addEntity))).TakesFresh
      (.apply (.operation .addEntity)) :=
    (⟨by decide, by decide, by decide⟩ : IdSupply.Fresh _ _)
  have hreach : Workspace.twoTables.Reachable :=
    .step _ (.step _ (.new {}) hfirst) hsecond
  have hclosed := reachable_closed _ hreach
  exact ⟨by decide, hclosed.1, hclosed.2.1⟩

end EntityRelation
