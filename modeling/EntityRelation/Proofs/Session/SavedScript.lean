import EntityRelation.Proofs.Session.Closed

/-!
# Where a saved script comes from

A session keeps the script of its last commit and saves this one, whatever has happened since; a
session on a saved project starts with the script of the project. Here it is noted along a run what
the committed script and the scripts of the stored projects were written from. A saved script is the
one of what was noted last (`script_of_save`), so it belongs to the schema that is saved with it as
long as nothing has changed since.
-/

namespace EntityRelation

/-- What a script is written from. -/
structure Origin where
  schema : Schema
  options : ScriptOptions

/-- The script that is written from an origin. -/
def Origin.script (o : Origin) : String :=
  o.schema.toScript o.options

/-- What the script of a session is written from. -/
def Session.origin (s : Session) : Origin :=
  ⟨s.schema, s.options⟩

/-- Whether a step takes a schema and its script from outside. -/
def SessionStep.generates : SessionStep → Bool
  | .generate _ _ => true
  | _ => false

/-- Whether a step writes a script down, or takes one that has been written down. -/
def SessionStep.movesScript : SessionStep → Bool
  | .commit | .save _ | .openProject _ _ | .generate _ _ => true
  | _ => false

/-- A workspace, and what the committed script and those of the stored projects were written
from. -/
structure TracedWorkspace where
  workspace : Workspace
  committed : Option Origin := none
  stored : ProjectId → Option Origin := fun _ => none

namespace TracedWorkspace

/-- A workspace with nothing in it. -/
def new (config : Config) : TracedWorkspace where
  workspace := .new config

/-- What the script that is saved next is written from. -/
def saved (t : TracedWorkspace) : Origin :=
  t.committed.getD t.workspace.session.origin

/-- What the committed script is written from after a step with an outcome. -/
def committedAfter (t : TracedWorkspace) :
    SessionStep → Except SessionError (SessionAnswer × Workspace) → Option Origin
  | .commit, .ok _ => some t.workspace.session.origin
  | .openProject id _, .ok _ => t.stored id
  | _, _ => t.committed

/-- What the scripts of the stored projects are written from after a step with an outcome. -/
def storedAfter (t : TracedWorkspace) :
    SessionStep → Except SessionError (SessionAnswer × Workspace) → ProjectId → Option Origin
  | .save _, .ok (.project p, _) => fun id => if id = p.id then some t.saved else t.stored id
  | _, _ => t.stored

/-- The workspace after a step, whether it succeeds or not. -/
def step (t : TracedWorkspace) (s : SessionStep) : TracedWorkspace where
  workspace := t.workspace.step s
  committed := t.committedAfter s (t.workspace.perform s)
  stored := t.storedAfter s (t.workspace.perform s)

/-- The workspace after several steps. -/
def run (t : TracedWorkspace) (steps : List SessionStep) : TracedWorkspace :=
  steps.foldl step t

theorem workspace_run (t : TracedWorkspace) (steps : List SessionStep) :
    (t.run steps).workspace = t.workspace.run steps := by
  induction steps generalizing t with
  | nil => rfl
  | cons s steps ih => exact ih (t.step s)

end TracedWorkspace

/-! ## The repository -/

namespace Repository

/-- The projects have distinct ids, all of them given out by the repository. -/
structure Numbered (r : Repository) : Prop where
  ids : (r.projects.map (·.id)).Nodup
  issued : ∀ p ∈ r.projects, ∃ n ≤ r.created, p.id = .issued n

/-- The repository has one project in addition or in the place of the one of its id. -/
structure Puts (r r' : Repository) (p : Project) : Prop where
  numbered : r'.Numbered
  others : ∀ q ∈ r'.projects, q = p ∨ q ∈ r.projects ∧ q.id ≠ p.id

variable {r r' : Repository} {p : Project}

theorem Numbered.empty : Numbered {} :=
  ⟨List.nodup_nil, fun _ h => absurd h List.not_mem_nil⟩

theorem Numbered.create (h : r.Numbered) {draft : ProjectDraft}
    (hcreate : r.create draft = .ok (p, r')) :
    r.Puts r' p ∧ p.schema = draft.schema ∧ p.dialect = draft.dialect ∧
      p.script = draft.script := by
  obtain ⟨name, -, hcreate⟩ := exists_of_bind_eq_ok hcreate
  obtain ⟨rfl, rfl⟩ := Prod.mk.inj (Except.ok.inj hcreate)
  have hnew : ∀ q ∈ r.projects, q.id ≠ .issued (r.created + 1) := by
    intro q hq hid
    obtain ⟨n, hn, hissued⟩ := h.issued q hq
    have hnumber := ProjectId.issued.inj (hissued.symm.trans hid)
    omega
  refine ⟨⟨⟨?_, ?_⟩, ?_⟩, rfl, rfl, rfl⟩
  · rw [List.map_cons, List.nodup_cons]
    refine ⟨fun hmem => ?_, h.ids⟩
    obtain ⟨q, hq, hid⟩ := List.mem_map.1 hmem
    exact hnew q hq hid
  · intro q hq
    rcases List.mem_cons.1 hq with rfl | hold
    · exact ⟨_, Nat.le_refl _, rfl⟩
    · obtain ⟨n, hn, hissued⟩ := h.issued q hold
      exact ⟨n, Nat.le_succ_of_le hn, hissued⟩
  · intro q hq
    rcases List.mem_cons.1 hq with rfl | hold
    · exact .inl rfl
    · exact .inr ⟨hold, hnew q hold⟩

theorem Numbered.update (h : r.Numbered) {id : ProjectId} {change : ProjectChange}
    (hupdate : r.update id change = .ok (p, r')) :
    r.Puts r' p ∧ (∀ schema ∈ change.schema, p.schema = schema) ∧
      (∀ dialect ∈ change.dialect, p.dialect = dialect) ∧
      ∀ script ∈ change.script, p.script = script := by
  obtain ⟨name, -, hupdate⟩ := exists_of_bind_eq_ok hupdate
  split at hupdate
  · cases hupdate
  · next old hold =>
    have hid := List.find?_some hold
    rw [beq_iff_eq] at hid
    obtain ⟨rfl, rfl⟩ := Prod.mk.inj (Except.ok.inj hupdate)
    have hput := updateFirst_key_eq_map h.ids id fun _ => changed old name change r.now
    have hothers : ∀ q ∈ updateFirst (·.id == id) (fun _ => changed old name change r.now)
        r.projects, q = changed old name change r.now ∨ q ∈ r.projects ∧ q.id ≠ id := by
      intro q hq
      rw [hput] at hq
      obtain ⟨q, hmem, rfl⟩ := List.mem_map.1 hq
      split
      · exact .inl rfl
      · next hne => exact .inr ⟨hmem, fun heq => hne (beq_iff_eq.2 heq)⟩
    refine ⟨⟨⟨?_, ?_⟩, ?_⟩, ?_, ?_, ?_⟩
    · have hids : (r.projects.map fun q => if q.id == id then changed old name change r.now
          else q).map (·.id) = r.projects.map (·.id) := by
        rw [List.map_map]
        refine List.map_congr_left fun q _ => ?_
        rw [Function.comp_apply]
        split
        · next heq => exact hid.trans (beq_iff_eq.1 heq).symm
        · rfl
      rw [hput, hids]
      exact h.ids
    · intro q hq
      rcases hothers q hq with rfl | ⟨hmem, -⟩
      · exact h.issued old (List.mem_of_find?_eq_some hold)
      · exact h.issued q hmem
    · rw [← hid] at hothers ⊢
      exact hothers
    · intro schema hschema
      rw [Option.mem_def] at hschema
      rw [changed, hschema]
      rfl
    · intro dialect hdialect
      rw [Option.mem_def] at hdialect
      rw [changed, hdialect]
      rfl
    · intro script hscript
      rw [Option.mem_def] at hscript
      rw [changed, hscript]
      rfl

theorem Numbered.delete (h : r.Numbered) {id : ProjectId} (hdelete : r.delete id = .ok r') :
    r'.Numbered ∧ r'.projects ⊆ r.projects := by
  rw [Repository.delete] at hdelete
  split at hdelete
  · cases hdelete
  · obtain rfl := Except.ok.inj hdelete
    have hsub := eraseFirst_sublist (·.id == id) r.projects
    exact ⟨⟨h.ids.sublist (hsub.map _), fun p hp => h.issued p (hsub.subset hp)⟩, hsub.subset⟩

end Repository

/-- A saved project has the schema and the dialect of the session, and its saved script. -/
theorem Session.save_eq_ok {s s' : Session} {r r' : Repository} (h : r.Numbered) {name : String}
    {p : Project} (hsave : s.save r name = .ok (p, s', r')) :
    r.Puts r' p ∧ s' = { s with project := some p.id } ∧ p.schema = s.schema ∧
      p.dialect = s.dialect ∧ p.script = s.savedScript := by
  obtain ⟨rfl, ⟨id, -, hupdate⟩ | ⟨-, hcreate⟩⟩ := Session.save_cases hsave
  · obtain ⟨hputs, hschema, hdialect, hscript⟩ := h.update hupdate
    exact ⟨hputs, rfl, hschema _ rfl, hdialect _ rfl, hscript _ rfl⟩
  · obtain ⟨hputs, hschema, hdialect, hscript⟩ := h.create hcreate
    exact ⟨hputs, rfl, hschema, hdialect, hscript⟩

/-! ## One step -/

namespace Workspace

/-- What a step that succeeds does to the scripts of a workspace. -/
inductive Moves (w : Workspace) : SessionStep → SessionAnswer → Workspace → Prop where
  | commit (script : String) : Moves w .commit (.text script)
      { w with session := { w.session with committed := some w.session.script } }
  | save {name : String} {p : Project} {r : Repository} (puts : w.repository.Puts r p)
      (schema : p.schema = w.session.schema) (dialect : p.dialect = w.session.dialect)
      (script : p.script = w.session.savedScript) :
      Moves w (.save name) (.project p)
        { w with session := { w.session with project := some p.id }, repository := r }
  | openProject {id : ProjectId} {config : Config} {p : Project} {s : Session}
      (found : w.repository.find? id = some p) (script : s.committed = some p.script) :
      Moves w (.openProject id config) .done { w with session := s }
  | other {s : SessionStep} {answer : SessionAnswer} {w' : Workspace}
      (quiet : s.movesScript = false) (committed : w'.session.committed = w.session.committed)
      (numbered : w'.repository.Numbered)
      (fewer : w'.repository.projects ⊆ w.repository.projects) : Moves w s answer w'

variable {w : Workspace}

theorem moves_of_perform (hr : w.repository.Numbered) {s : SessionStep}
    (hs : s.generates = false) {answer : SessionAnswer} {w' : Workspace}
    (h : w.perform s = .ok (answer, w')) : w.Moves s answer w' := by
  cases Transition.of_perform h with
  | commit _ => exact .commit _
  | generate _ => cases hs
  | save saved =>
      obtain ⟨hputs, -, hschema, hdialect, hscript⟩ := Session.save_eq_ok hr saved
      exact .save hputs hschema hdialect hscript
  | openProject found => exact .openProject found rfl
  | deleteProject deleted =>
      obtain ⟨hnumbered, hsub⟩ := hr.delete deleted
      exact .other rfl rfl hnumbered hsub
  | undo earlier =>
      obtain ⟨previous, past, -, rfl⟩ := Session.undo?_eq_some_iff.1 earlier
      exact .other rfl rfl hr (List.Subset.refl _)
  | redo later =>
      obtain ⟨next, future, -, rfl⟩ := Session.redo?_eq_some_iff.1 later
      exact .other rfl rfl hr (List.Subset.refl _)
  | _ => exact .other rfl rfl hr (List.Subset.refl _)

end Workspace

/-! ## Runs -/

namespace TracedWorkspace

/-- The committed script and the scripts of the stored projects are what has been noted. -/
structure Traces (t : TracedWorkspace) : Prop where
  committed : t.workspace.session.committed = t.committed.map Origin.script
  numbered : t.workspace.repository.Numbered
  stored : ∀ p ∈ t.workspace.repository.projects,
    ∃ o, t.stored p.id = some o ∧ p.script = o.script

variable {t : TracedWorkspace}

theorem Traces.new (config : Config) : (new config).Traces :=
  ⟨rfl, .empty, fun _ h => absurd h List.not_mem_nil⟩

/-- The script that is saved next. -/
theorem Traces.savedScript_eq (h : t.Traces) :
    t.workspace.session.savedScript = t.saved.script := by
  rw [Session.savedScript, h.committed, saved]
  cases t.committed with
  | none => rfl
  | some o => rfl

theorem Traces.step (h : t.Traces) {s : SessionStep} (hs : s.generates = false) :
    (t.step s).Traces := by
  rw [TracedWorkspace.step, Workspace.step]
  cases hperform : t.workspace.perform s with
  | error e =>
      have hsame : (⟨t.workspace, t.committedAfter s (.error e), t.storedAfter s (.error e)⟩ :
          TracedWorkspace) = t := by
        cases s <;> rfl
      rwa [hsame]
  | ok result =>
      obtain ⟨answer, w⟩ := result
      have hmoves := Workspace.moves_of_perform h.numbered hs hperform
      cases hmoves with
      | commit script => exact ⟨rfl, h.numbered, h.stored⟩
      | @save name p r puts _ _ script =>
          refine ⟨h.committed, puts.numbered, fun q hq => ?_⟩
          rcases puts.others q hq with rfl | ⟨hold, hne⟩
          · exact ⟨t.saved, if_pos rfl, script.trans h.savedScript_eq⟩
          · obtain ⟨o, ho, hscript⟩ := h.stored q hold
            exact ⟨o, (if_neg hne).trans ho, hscript⟩
      | @openProject id config p s found script =>
          obtain ⟨o, ho, hscript⟩ := h.stored p (List.mem_of_find?_eq_some found)
          have hid := List.find?_some found
          rw [beq_iff_eq] at hid
          rw [hid] at ho
          have hcommitted : s.committed = (t.stored id).map Origin.script := by
            rw [script, ho, hscript]
            rfl
          exact ⟨hcommitted, h.numbered, h.stored⟩
      | other quiet committed numbered fewer =>
          have hsame : (⟨w, t.committedAfter s (.ok (answer, w)),
              t.storedAfter s (.ok (answer, w))⟩ : TracedWorkspace) =
              ⟨w, t.committed, t.stored⟩ := by
            cases s with
            | commit | save _ | openProject _ _ | generate _ _ => cases quiet
            | _ => rfl
          dsimp only
          rw [hsame]
          exact ⟨committed.trans h.committed, numbered, fun p hp => h.stored p (fewer hp)⟩

theorem Traces.run (h : t.Traces) {steps : List SessionStep}
    (hsteps : ∀ s ∈ steps, s.generates = false) : (t.run steps).Traces := by
  induction steps generalizing t with
  | nil => exact h
  | cons s steps ih =>
      exact ih (h.step (hsteps s List.mem_cons_self))
        fun s' hs' => hsteps s' (List.mem_cons_of_mem s hs')

end TracedWorkspace

/-- What a saved project holds: the schema and the dialect of the session, and the script of what
was noted last. So the script is that of the saved schema in the saved dialect if nothing has been
committed or opened, or if what was committed gives the script of the session. -/
theorem script_of_save (config : Config) {steps : List SessionStep}
    (hsteps : ∀ s ∈ steps, s.generates = false) {name : String} {p : Project} {w : Workspace}
    (hsave : ((Workspace.new config).run steps).perform (.save name) = .ok (.project p, w)) :
    let t := (TracedWorkspace.new config).run steps
    let session := t.workspace.session
    t.workspace = (Workspace.new config).run steps ∧ p.schema = session.schema ∧
      p.dialect = session.dialect ∧ p.script = t.saved.script ∧
      (p.script = p.schema.toScript { session.options with dialect := p.dialect } ↔
        ∀ o ∈ t.committed, o.script = session.script) := by
  intro t session
  have hworkspace : t.workspace = (Workspace.new config).run steps :=
    (TracedWorkspace.new config).workspace_run steps
  have htraces : t.Traces := (TracedWorkspace.Traces.new config).run hsteps
  rw [← hworkspace] at hsave
  have hsaved : p.schema = session.schema ∧ p.dialect = session.dialect ∧
      p.script = session.savedScript := by
    cases Workspace.moves_of_perform htraces.numbered rfl hsave with
    | save _ schema dialect script => exact ⟨schema, dialect, script⟩
    | other quiet => cases quiet
  obtain ⟨hschema, hdialect, hscript⟩ := hsaved
  rw [htraces.savedScript_eq] at hscript
  refine ⟨hworkspace, hschema, hdialect, hscript, ?_⟩
  have hcurrent : p.schema.toScript { session.options with dialect := p.dialect } =
      session.script := by
    rw [hschema, hdialect]
    rfl
  rw [hcurrent, hscript, TracedWorkspace.saved]
  cases t.committed with
  | none => simp [session, Session.origin, Origin.script, Session.script]
  | some o => simp

/-- A session in which a table is added and committed. -/
def committedSteps : List SessionStep :=
  [.apply (.operation .addEntity), .commit]

/-- The project saved under a name, and the workspace after it. -/
def Workspace.saved? (w : Workspace) (name : String) : Option (Project × Workspace) :=
  match w.perform (.save name) with
  | .ok (.project p, w') => some (p, w')
  | _ => none

theorem Workspace.perform_of_saved? {w w' : Workspace} {name : String} {p : Project}
    (h : w.saved? name = some (p, w')) : w.perform (.save name) = .ok (.project p, w') := by
  rw [saved?] at h
  split at h
  · next hsave =>
    obtain ⟨rfl, rfl⟩ := Prod.mk.inj (Option.some.inj h)
    exact hsave
  · cases h

/-- Saving at once keeps the script and the schema together. -/
theorem script_of_save_committed :
    let w := (Workspace.new {}).run committedSteps
    ∃ p w', w.perform (.save "shop") = .ok (.project p, w') ∧
      p.script = p.schema.toScript { w.session.options with dialect := p.dialect } := by
  intro w
  have hsaves : (w.saved? "shop").isSome = true := by decide +kernel
  have hcommitted : (((TracedWorkspace.new {}).run committedSteps).committed.all fun o =>
      o.script == w.session.script) = true := by
    decide +kernel
  obtain ⟨⟨p, w'⟩, hsaved⟩ := Option.isSome_iff_exists.1 hsaves
  have hsave := Workspace.perform_of_saved? hsaved
  have hsteps : ∀ s ∈ committedSteps, s.generates = false := by decide
  obtain ⟨hworkspace, -, -, -, hiff⟩ := script_of_save {} hsteps hsave
  rw [hworkspace] at hiff
  refine ⟨p, w', hsave, hiff.2 fun o ho => ?_⟩
  rw [Option.mem_def.1 ho] at hcommitted
  exact beq_iff_eq.1 hcommitted

/-- The dialect is changed after a commit, and the script is saved in the dialect before. -/
theorem script_of_save_otherDialect :
    let w := (Workspace.new {}).run (committedSteps ++ [.setDialect .postgreSql])
    ∃ p w', w.perform (.save "shop") = .ok (.project p, w') ∧ p.dialect = .postgreSql ∧
      p.script ≠ p.schema.toScript { w.session.options with dialect := p.dialect } := by
  intro w
  have hdrifts : ((w.saved? "shop").any fun saved => saved.1.dialect == .postgreSql &&
      saved.1.script != saved.1.schema.toScript
        { w.session.options with dialect := saved.1.dialect }) = true := by
    decide +kernel
  obtain ⟨⟨p, w'⟩, hsaved, hdrift⟩ := (Option.any_eq_true _ _).1 hdrifts
  rw [Bool.and_eq_true, beq_iff_eq, bne_iff_ne] at hdrift
  exact ⟨p, w', Workspace.perform_of_saved? hsaved, hdrift⟩

end EntityRelation
