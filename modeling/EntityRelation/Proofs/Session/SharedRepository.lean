import EntityRelation.Proofs.Session.InStep
import EntityRelation.Proofs.Session.SavedScript
import Mathlib.Logic.Function.Basic

/-!
# Sessions that share a repository

Any number of sessions share a repository, and their steps come in any order. Whether a session
creates a project or updates one hangs on the session alone, while the project may be changed or
deleted from elsewhere. So the saves that succeed are noted along a run (`Office.savings`), and the
invariant is that every stored project is what was saved under its id last (`Office.Recorded`). What
has been deleted stays so, since ids are not given out twice and an update needs its project to be
there (`Office.Stands.run`).
-/

namespace EntityRelation

/-! ## What a request does to look-ups -/

namespace Repository

variable {r r' : Repository} {p : Project}

/-- The id has been given out. -/
def Issued (r : Repository) (id : ProjectId) : Prop :=
  ∃ n ≤ r.created, id = .issued n

theorem Numbered.issued_of_find? (h : r.Numbered) {id : ProjectId} (hfind : r.find? id = some p) :
    r.Issued id := by
  have hid := List.find?_some hfind
  rw [beq_iff_eq] at hid
  exact hid ▸ h.issued p (List.mem_of_find?_eq_some hfind)

/-- What saving a session does to a repository. -/
structure Saves (r : Repository) (s : Session) (p : Project) (r' : Repository) : Prop where
  numbered : r'.Numbered
  find? : ∀ id, r'.find? id = if id = p.id then some p else r.find? id
  size : r'.size = r.size + if s.project.isNone = true then 1 else 0
  issued : ∀ id, r.Issued id → r'.Issued id
  new : s.project = none → ¬r.Issued p.id
  own : ∀ id, s.project = some id → p.id = id ∧ ∃ old, r.find? id = some old ∧
    p.createdAt = old.createdAt
  schema : p.schema = s.schema
  dialect : p.dialect = s.dialect
  script : p.script = s.savedScript
  prompt : p.prompt = s.prompt.or ((r.find? p.id).bind (·.prompt))

theorem Numbered.saves_create (h : r.Numbered) {s : Session} (hs : s.project = none) {name : String}
    (hcreate : r.create (s.draft name) = .ok (p, r')) : r.Saves s p r' := by
  obtain ⟨hputs, -⟩ := h.create hcreate
  obtain ⟨stored, -, hcreate⟩ := exists_of_bind_eq_ok hcreate
  obtain ⟨rfl, rfl⟩ := Prod.mk.inj (Except.ok.inj hcreate)
  have hnew : ¬r.Issued (.issued (r.created + 1)) := by
    rintro ⟨n, hn, hid⟩
    have hnumber := ProjectId.issued.inj hid
    omega
  have hnone : r.find? (.issued (r.created + 1)) = none := by
    cases hfind : r.find? (.issued (r.created + 1)) with
    | none => rfl
    | some old => exact absurd (h.issued_of_find? hfind) hnew
  refine ⟨hputs.numbered, fun id => ?_, ?_, ?_, fun _ => hnew, ?_, rfl, rfl, rfl, ?_⟩
  · by_cases hid : id = .issued (r.created + 1)
    · rw [if_pos hid, hid]
      exact List.find?_cons_of_pos (beq_self_eq_true _)
    · rw [if_neg hid]
      exact List.find?_cons_of_neg fun heq => hid (beq_iff_eq.1 heq).symm
  · simp [size, hs]
  · rintro id ⟨n, hn, hid⟩
    exact ⟨n, Nat.le_succ_of_le hn, hid⟩
  · intro id hid
    rw [hs] at hid
    cases hid
  · rw [hnone]
    exact (Option.or_none).symm

theorem Numbered.saves_update (h : r.Numbered) {s : Session} {id : ProjectId}
    (hs : s.project = some id) {name : String} (hupdate : r.update id (s.change name) = .ok (p, r')) :
    r.Saves s p r' := by
  obtain ⟨hputs, -⟩ := h.update hupdate
  obtain ⟨stored, -, hupdate⟩ := exists_of_bind_eq_ok hupdate
  split at hupdate
  · cases hupdate
  · next old hold =>
    have hid := List.find?_some hold
    rw [beq_iff_eq] at hid
    obtain ⟨hp, hr⟩ := Prod.mk.inj (Except.ok.inj hupdate)
    rw [hp] at hr
    obtain rfl := hr
    have hpid : p.id = id := by rw [← hp]; exact hid
    refine ⟨hputs.numbered, fun k => ?_, ?_, fun _ hissued => hissued, ?_, ?_, ?_, ?_, ?_, ?_⟩
    · by_cases hk : k = id
      · have hfound := find?_updateFirst (·.id == id) (fun _ => p) (fun _ _ => beq_iff_eq.2 hpid)
          r.projects
        rw [Repository.find?] at hold
        rw [if_pos (hk.trans hpid.symm), hk, Repository.find?, hfound, hold]
        rfl
      · rw [if_neg fun h => hk (h.trans hpid)]
        exact find?_updateFirst_key_of_ne hk (fun _ _ => hpid) r.projects
    · simp [size, hs]
    · intro hnone
      rw [hs] at hnone
      cases hnone
    · intro k hk
      rw [hs] at hk
      obtain rfl := Option.some.inj hk
      exact ⟨hpid, old, hold, by rw [← hp]; rfl⟩
    · rw [← hp]
      rfl
    · rw [← hp]
      rfl
    · rw [← hp]
      rfl
    · rw [hpid, hold, ← hp]
      rfl

theorem Numbered.saves (h : r.Numbered) {s s' : Session} {name : String}
    (hsave : s.save r name = .ok (p, s', r')) :
    r.Saves s p r' ∧ s' = { s with project := some p.id } := by
  obtain ⟨hs', ⟨id, hid, hupdate⟩ | ⟨hnone, hcreate⟩⟩ := Session.save_cases hsave
  · exact ⟨h.saves_update hid hupdate, hs'⟩
  · exact ⟨h.saves_create hnone hcreate, hs'⟩

/-- What deleting a project does to a repository. -/
structure Deletes (r : Repository) (id : ProjectId) (r' : Repository) : Prop where
  numbered : r'.Numbered
  issued : r.Issued id
  kept : ∀ k, r.Issued k → r'.Issued k
  find? : ∀ k, r'.find? k = if k = id then none else r.find? k
  size : r'.size + 1 = r.size

theorem length_eraseFirst {α : Type} {q : α → Bool} {as : List α} (h : as.any q) :
    (eraseFirst q as).length + 1 = as.length := by
  induction as with
  | nil => cases h
  | cons a rest ih =>
      rw [eraseFirst]
      by_cases ha : q a
      · rw [if_pos ha, List.length_cons]
      · rw [if_neg ha, List.length_cons, ih (by simpa [ha] using h), List.length_cons]

theorem Numbered.deletes (h : r.Numbered) {id : ProjectId} (hdelete : r.delete id = .ok r') :
    r.Deletes id r' := by
  have hnumbered := (h.delete hdelete).1
  rw [Repository.delete] at hdelete
  split at hdelete
  · cases hdelete
  · next old hold =>
    obtain rfl := Except.ok.inj hdelete
    have hid := List.find?_some hold
    refine ⟨hnumbered, h.issued_of_find? hold, fun _ hissued => hissued, fun k => ?_, ?_⟩
    · by_cases hk : k = id
      · rw [if_pos hk, hk, Repository.find?, eraseFirst_key_eq_filter h.ids, List.find?_eq_none]
        intro q hq
        simpa using (List.mem_filter.1 hq).2
      · rw [if_neg hk]
        exact find?_eraseFirst_key_of_ne hk r.projects
    · exact length_eraseFirst (List.any_eq_true.2 ⟨old, List.mem_of_find?_eq_some hold, hid⟩)

end Repository

/-! ## The office -/

/-- Sessions, each at a desk, with the repository and the ids that they share. -/
structure Office where
  sessions : Nat → Session
  repository : Repository := {}
  ids : IdSupply := {}

/-- A save that succeeded: the id of the project, and the session that was saved. -/
structure Saving where
  id : ProjectId
  session : Session

/-- Whether a step may change the repository. -/
def SessionStep.writes : SessionStep → Bool
  | .save _ | .deleteProject _ => true
  | _ => false

namespace Workspace

/-- What a step that succeeds does to the repository. -/
inductive Shares (w : Workspace) : SessionStep → SessionAnswer → Workspace → Prop where
  | saved {name : String} {p : Project} {s : Session} {r : Repository}
      (save : w.session.save w.repository name = .ok (p, s, r)) :
      Shares w (.save name) (.project p) { w with session := s, repository := r }
  | deleted {id : ProjectId} {r : Repository} (delete : w.repository.delete id = .ok r) :
      Shares w (.deleteProject id) .done { w with repository := r }
  | other {step : SessionStep} {answer : SessionAnswer} {w' : Workspace}
      (quiet : step.writes = false) (silent : ∀ p, answer ≠ .project p)
      (kept : w'.repository = w.repository) : Shares w step answer w'

variable {w w' : Workspace} {step : SessionStep} {answer : SessionAnswer}

theorem shares_of_perform (h : w.perform step = .ok (answer, w')) : w.Shares step answer w' := by
  cases Transition.of_perform h with
  | save saved => exact .saved saved
  | deleteProject deleted => exact .deleted deleted
  | _ => exact .other rfl (fun _ h => by cases h) rfl

end Workspace

namespace Office

/-- New sessions and an empty repository. -/
def new (configs : Nat → Config) : Office where
  sessions desk := .new (configs desk)

/-- What the session at a desk works with. -/
def workspace (o : Office) (desk : Nat) : Workspace :=
  ⟨o.sessions desk, o.repository, o.ids⟩

/-- The office with what the session at a desk has come to. -/
def put (o : Office) (desk : Nat) (w : Workspace) : Office where
  sessions := Function.update o.sessions desk w.session
  repository := w.repository
  ids := w.ids

/-- What a step of the session at a desk answers, and the office after it. -/
def perform (o : Office) (desk : Nat) (s : SessionStep) :
    Except SessionError (SessionAnswer × Office) :=
  ((o.workspace desk).perform s).map fun (answer, w) => (answer, o.put desk w)

/-- The office after a step of the session at a desk, whether it succeeds or not. -/
def step (o : Office) (move : Nat × SessionStep) : Office :=
  o.put move.1 ((o.workspace move.1).step move.2)

/-- The office after steps of sessions, in any order. -/
def run (o : Office) (moves : List (Nat × SessionStep)) : Office :=
  moves.foldl step o

/-- The save that a step is, if it succeeds. -/
def saving (o : Office) (move : Nat × SessionStep) : List Saving :=
  match o.perform move.1 move.2 with
  | .ok (.project p, _) => [⟨p.id, o.sessions move.1⟩]
  | _ => []

/-- The saves along a run that succeed. -/
def savings (o : Office) : List (Nat × SessionStep) → List Saving
  | [] => []
  | move :: rest => o.saving move ++ (o.step move).savings rest

variable {o : Office} {desk : Nat} {s : SessionStep} {answer : SessionAnswer} {o' : Office}

@[simp]
theorem repository_put (o : Office) (desk : Nat) (w : Workspace) :
    (o.put desk w).repository = w.repository := rfl

@[simp]
theorem sessions_put (o : Office) (desk : Nat) (w : Workspace) :
    (o.put desk w).sessions desk = w.session :=
  Function.update_self ..

theorem sessions_put_of_ne (o : Office) {desk other : Nat} (h : other ≠ desk) (w : Workspace) :
    (o.put desk w).sessions other = o.sessions other :=
  Function.update_of_ne h ..

theorem put_workspace (o : Office) (desk : Nat) : o.put desk (o.workspace desk) = o := by
  rw [put, workspace, Function.update_eq_self]

theorem step_of_error {e : SessionError} (h : o.perform desk s = .error e) :
    o.step (desk, s) = o := by
  rw [perform] at h
  rw [step, Workspace.step]
  cases hw : (o.workspace desk).perform s with
  | error _ => exact o.put_workspace desk
  | ok result =>
      rw [hw] at h
      cases h

/-- A step that succeeds is one of the workspace at the desk. -/
theorem exists_of_perform (h : o.perform desk s = .ok (answer, o')) :
    ∃ w, (o.workspace desk).perform s = .ok (answer, w) ∧ o' = o.put desk w ∧
      o.step (desk, s) = o' := by
  obtain ⟨⟨answer', w⟩, hw, hput⟩ := exists_of_map_eq_ok h
  obtain ⟨rfl, rfl⟩ := Prod.mk.inj hput
  exact ⟨w, hw, rfl, by rw [step, Workspace.step, hw]⟩

/-! ## What is stored -/

/-- A project is what was saved under its id last, with the last prompt that was saved there. -/
structure Latest (log : List Saving) (id : ProjectId) (p : Project) (last : Saving) : Prop where
  noted : (log.filter (·.id == id)).getLast? = some last
  schema : p.schema = last.session.schema
  dialect : p.dialect = last.session.dialect
  script : p.script = last.session.savedScript
  prompt : p.prompt =
    ((log.filter (·.id == id)).filterMap fun saving => saving.session.prompt).getLast?

/-- The stored projects are what has been saved last, by sessions in step. -/
structure Recorded (o : Office) (log : List Saving) : Prop where
  numbered : o.repository.Numbered
  sessions : ∀ desk, (o.sessions desk).InStep
  issued : ∀ saving ∈ log, o.repository.Issued saving.id
  saved : ∀ saving ∈ log, saving.session.schema.InStep
  latest : ∀ id p, o.repository.find? id = some p → ∃ last, Latest log id p last

theorem Recorded.new (configs : Nat → Config) : (new configs).Recorded [] :=
  ⟨.empty, fun desk => Session.inStep_new (configs desk), fun _ h => absurd h List.not_mem_nil,
    fun _ h => absurd h List.not_mem_nil, fun _ _ h => nomatch h⟩

variable {log : List Saving}

/-- Another save leaves what is the latest under other ids. -/
theorem Latest.append_of_ne {id : ProjectId} {p : Project} {last saving : Saving}
    (h : Latest log id p last) (hne : saving.id ≠ id) : Latest (log ++ [saving]) id p last := by
  have hsame : (log ++ [saving]).filter (·.id == id) = log.filter (·.id == id) := by
    simp [hne]
  exact ⟨hsame ▸ h.noted, h.schema, h.dialect, h.script, hsame ▸ h.prompt⟩

theorem Latest.mem {id : ProjectId} {p : Project} {last : Saving} (h : Latest log id p last) :
    last ∈ log :=
  (List.mem_filter.1 (List.mem_of_getLast? h.noted)).1

theorem Recorded.stored (h : o.Recorded log) :
    ∀ p ∈ o.repository.projects, p.schema.InStep := by
  intro p hp
  obtain ⟨last, hlast⟩ := h.latest p.id p (find?_key_eq_some h.numbered.ids hp)
  rw [hlast.schema]
  exact h.saved last hlast.mem

/-- What a session has saved is the latest under the id of its project. -/
theorem Recorded.latest_of_saves (h : o.Recorded log) {s : Session} {p : Project} {r : Repository}
    (hsaves : o.repository.Saves s p r) : Latest (log ++ [⟨p.id, s⟩]) p.id p ⟨p.id, s⟩ := by
  have hunder : (log ++ [(⟨p.id, s⟩ : Saving)]).filter (·.id == p.id) =
      log.filter (·.id == p.id) ++ [⟨p.id, s⟩] := by
    simp
  have hbefore : (o.repository.find? p.id).bind (·.prompt) =
      ((log.filter (·.id == p.id)).filterMap fun saving => saving.session.prompt).getLast? := by
    cases hfind : o.repository.find? p.id with
    | some old =>
        obtain ⟨last, hlast⟩ := h.latest p.id old hfind
        exact hlast.prompt
    | none =>
        -- The project is not there, so the session creates it under an id without a past.
        have hnone : s.project = none := by
          cases hproject : s.project with
          | none => rfl
          | some id =>
              obtain ⟨rfl, old, hold, -⟩ := hsaves.own id hproject
              rw [hfind] at hold
              cases hold
        have hempty : log.filter (·.id == p.id) = [] := by
          refine List.filter_eq_nil_iff.2 fun saving hmem hid => hsaves.new hnone ?_
          rw [← beq_iff_eq.1 hid]
          exact h.issued saving hmem
        rw [hempty]
        rfl
  refine ⟨by rw [hunder, List.getLast?_concat], hsaves.schema, hsaves.dialect, hsaves.script, ?_⟩
  rw [hunder, hsaves.prompt, hbefore, List.filterMap_append, List.getLast?_append]
  cases hprompt : s.prompt with
  | none => simp [hprompt]
  | some prompt => simp [hprompt]

/-- The sessions at all desks stay in step when one of them takes a step. -/
theorem Recorded.inStep_put (h : o.Recorded log) {w : Workspace}
    (hw : (o.workspace desk).perform s = .ok (answer, w)) (other : Nat) :
    ((o.put desk w).sessions other).InStep := by
  by_cases hother : other = desk
  · rw [hother, sessions_put]
    exact Workspace.inStep_of_perform (h.sessions desk) h.stored hw
  · rw [sessions_put_of_ne o hother]
    exact h.sessions other

theorem Recorded.save (h : o.Recorded log) {p : Project}
    (hsaves : o.repository.Saves (o.sessions desk) p o'.repository)
    (hsessions : ∀ other, (o'.sessions other).InStep) :
    o'.Recorded (log ++ [⟨p.id, o.sessions desk⟩]) := by
  refine ⟨hsaves.numbered, hsessions, ?_, ?_, fun id q hq => ?_⟩
  · refine List.forall_mem_append.2 ⟨fun saving hmem => hsaves.issued _ (h.issued _ hmem),
      List.forall_mem_singleton.2 ?_⟩
    exact hsaves.numbered.issued_of_find? ((hsaves.find? p.id).trans (if_pos rfl))
  · exact List.forall_mem_append.2 ⟨h.saved,
      List.forall_mem_singleton.2 (h.sessions desk _ List.mem_cons_self)⟩
  · rw [hsaves.find?] at hq
    split at hq
    · next hid =>
      obtain rfl := Option.some.inj hq
      rw [hid]
      exact ⟨_, h.latest_of_saves hsaves⟩
    · next hid =>
      obtain ⟨last, hlast⟩ := h.latest id q hq
      exact ⟨last, hlast.append_of_ne fun heq => hid heq.symm⟩

theorem Recorded.delete (h : o.Recorded log) {id : ProjectId}
    (hdeletes : o.repository.Deletes id o'.repository)
    (hsessions : ∀ other, (o'.sessions other).InStep) : o'.Recorded log := by
  refine ⟨hdeletes.numbered, hsessions, fun saving hmem => hdeletes.kept _ (h.issued _ hmem),
    h.saved, fun k p hk => ?_⟩
  rw [hdeletes.find?] at hk
  split at hk
  · cases hk
  · exact h.latest k p hk

theorem Recorded.step (h : o.Recorded log) (move : Nat × SessionStep) :
    (o.step move).Recorded (log ++ o.saving move) := by
  obtain ⟨desk, s⟩ := move
  cases hperform : o.perform desk s with
  | error e =>
      have hnone : o.saving (desk, s) = [] := by rw [saving, hperform]
      rw [step_of_error hperform, hnone, List.append_nil]
      exact h
  | ok result =>
      obtain ⟨answer, o'⟩ := result
      obtain ⟨w, hw, rfl, hstep⟩ := exists_of_perform hperform
      have hsessions := h.inStep_put hw
      rw [hstep]
      cases Workspace.shares_of_perform hw with
      | @saved name p s' r save =>
          have hone : o.saving (desk, .save name) = [⟨p.id, o.sessions desk⟩] := by
            rw [saving, hperform]
          rw [hone]
          exact h.save (h.numbered.saves save).1 hsessions
      | @deleted id r delete =>
          have hnone : o.saving (desk, .deleteProject id) = [] := by rw [saving, hperform]
          rw [hnone, List.append_nil]
          exact h.delete (h.numbered.deletes delete) hsessions
      | other quiet silent kept =>
          have hnone : o.saving (desk, s) = [] := by
            rw [saving, hperform]
            cases answer with
            | project p => exact absurd rfl (silent p)
            | _ => rfl
          rw [hnone, List.append_nil]
          have hrepository : (o.put desk w).repository = o.repository := kept
          exact ⟨hrepository ▸ h.numbered, hsessions, hrepository ▸ h.issued, h.saved,
            hrepository ▸ h.latest⟩

theorem Recorded.run (h : o.Recorded log) (moves : List (Nat × SessionStep)) :
    (o.run moves).Recorded (log ++ o.savings moves) := by
  induction moves generalizing o log with
  | nil =>
      rw [savings, List.append_nil]
      exact h
  | cons move rest ih =>
      rw [savings, ← List.append_assoc]
      exact ih (h.step move)

/-! ## What stays -/

/-- The id has been given out, and a project that stands under it was created at an instant that
satisfies a condition. -/
structure Stands (o : Office) (id : ProjectId) (condition : Instant → Prop) : Prop where
  issued : o.repository.Issued id
  created : ∀ p, o.repository.find? id = some p → condition p.createdAt

variable {id : ProjectId} {condition : Instant → Prop}

theorem Stands.step (hstands : o.Stands id condition) (h : o.repository.Numbered)
    (move : Nat × SessionStep) : (o.step move).Stands id condition := by
  obtain ⟨desk, s⟩ := move
  cases hperform : o.perform desk s with
  | error e =>
      rw [step_of_error hperform]
      exact hstands
  | ok result =>
      obtain ⟨answer, o'⟩ := result
      obtain ⟨w, hw, rfl, hstep⟩ := exists_of_perform hperform
      rw [hstep]
      cases Workspace.shares_of_perform hw with
      | @saved name p s' r save =>
          obtain ⟨hsaves, -⟩ := h.saves save
          refine ⟨hsaves.issued id hstands.issued, fun q hq => ?_⟩
          rw [repository_put, hsaves.find?] at hq
          split at hq
          · next hid =>
            obtain rfl := Option.some.inj hq
            cases hproject : (o.sessions desk).project with
            | none => exact absurd (hid ▸ hstands.issued) (hsaves.new hproject)
            | some k =>
                obtain ⟨hk, old, hold, hcreated⟩ := hsaves.own k hproject
                rw [hcreated]
                exact hstands.created old (by rw [hid, hk]; exact hold)
          · exact hstands.created q hq
      | @deleted k r delete =>
          have hdeletes := h.deletes delete
          refine ⟨hdeletes.kept id hstands.issued, fun q hq => ?_⟩
          rw [repository_put, hdeletes.find?] at hq
          split at hq
          · cases hq
          · exact hstands.created q hq
      | other quiet silent kept =>
          have hrepository : (o.put desk w).repository = o.repository := kept
          exact ⟨hrepository ▸ hstands.issued, hrepository ▸ hstands.created⟩

theorem Stands.run (hstands : o.Stands id condition) (h : o.Recorded log)
    (moves : List (Nat × SessionStep)) : (o.run moves).Stands id condition := by
  induction moves generalizing o log with
  | nil => exact hstands
  | cons move rest ih => exact ih (hstands.step h.numbered move) (h.step move)

/-! ## The last writer wins -/

/-- A project is not there: it cannot be opened, and a session that had it cannot save. -/
structure Gone (o : Office) (id : ProjectId) : Prop where
  absent : o.repository.find? id = none
  opening : ∀ desk config,
    o.perform desk (.openProject id config) = .error (.projectNotFound id)
  saving : ∀ desk name, (o.sessions desk).project = some id →
    o.perform desk (.save name) = .error
      (.repository (if (Text.trimmed name).isEmpty = true then .emptyName else .notFound))

/-- The name of an update is checked before the project is looked for. -/
theorem update_of_find? {r : Repository} (h : r.find? id = none) {change : ProjectChange}
    {name : String} (hname : change.name = some name) :
    r.update id change =
      .error (if (Text.trimmed name).isEmpty = true then .emptyName else .notFound) := by
  rw [Repository.update, hname, Option.mapM_some, Repository.checkedName]
  by_cases hblank : (Text.trimmed name).isEmpty = true
  · rw [if_pos hblank, if_pos hblank]
    rfl
  · rw [if_neg hblank, if_neg hblank, h]
    rfl

theorem gone_of_find? (h : o.repository.find? id = none) : o.Gone id := by
  refine ⟨h, fun desk config => ?_, fun desk name hproject => ?_⟩
  · have hopen : Session.open? (o.workspace desk).repository config id =
        .error (.projectNotFound id) := by
      have hfind : (o.workspace desk).repository.find? id = none := h
      rw [Session.open?, hfind]
    rw [perform, Workspace.perform, hopen]
    rfl
  · have hsave : (o.workspace desk).session.save (o.workspace desk).repository name =
        .error (.repository
          (if (Text.trimmed name).isEmpty = true then .emptyName else .notFound)) := by
      have hbound : (o.workspace desk).session.project = some id := hproject
      have hfind : (o.workspace desk).repository.find? id = none := h
      rw [Session.save, hbound]
      dsimp only
      rw [update_of_find? hfind rfl]
    rw [perform, Workspace.perform, hsave]
    rfl

/-- The session that opening a stored project gives. -/
theorem exists_perform_open (o : Office) {p : Project} (h : o.repository.find? id = some p)
    (desk : Nat) (config : Config) :
    ∃ next, o.perform desk (.openProject id config) = .ok (.done, next) ∧
      next.sessions desk =
        { schema := p.schema.syncForeignKeys
          history := .new config.historyLimit
          options := { config.scriptOptions with dialect := p.dialect }
          project := some p.id
          prompt := p.prompt
          committed := some p.script } := by
  have hopen : (o.workspace desk).Transition (.openProject id config) .done
      { o.workspace desk with session := .ofProject config p } := .openProject h
  rw [perform, Workspace.perform_eq_ok_iff.2 hopen]
  exact ⟨_, rfl, sessions_put ..⟩

/-- What has been deleted does not come back. -/
theorem Recorded.gone_of_perform (h : o.Recorded log)
    (hdelete : o.perform desk (.deleteProject id) = .ok (answer, o'))
    (moves : List (Nat × SessionStep)) : (o'.run moves).Gone id := by
  obtain ⟨w, hw, hput, hstep⟩ := exists_of_perform hdelete
  have hrecorded := h.step (desk, .deleteProject id)
  rw [hstep] at hrecorded
  have hstands : o'.Stands id fun _ => False := by
    cases Workspace.shares_of_perform hw with
    | other quiet => cases quiet
    | @deleted _ r delete =>
        have hdeletes := h.numbered.deletes delete
        rw [hput]
        refine ⟨hdeletes.kept id hdeletes.issued, fun p hp => ?_⟩
        rw [repository_put, hdeletes.find?, if_pos rfl] at hp
        cases hp
  refine gone_of_find? (Option.eq_none_iff_forall_not_mem.2 fun p hp => ?_)
  exact (hstands.run hrecorded moves).created p hp

/-- How an office serves its sessions, by the saves so far. -/
structure Serves (o : Office) (log : List Saving) : Prop where
  /-- The first save of a session without a project creates one, any other updates one. -/
  saves : ∀ desk name answer next, o.perform desk (.save name) = .ok (answer, next) →
    next.repository.size =
        o.repository.size + (if (o.sessions desk).project.isNone = true then 1 else 0) ∧
      (next.sessions desk).project.isSome = true
  deletes : ∀ desk id answer next, o.perform desk (.deleteProject id) = .ok (answer, next) →
    next.repository.size + 1 = o.repository.size
  otherwise : ∀ desk s, s.writes = false → (o.step (desk, s)).repository = o.repository
  opens : ∀ id p, o.repository.find? id = some p → ∃ last,
    (log.filter (·.id == id)).getLast? = some last ∧
      ∀ desk config, ∃ next, o.perform desk (.openProject id config) = .ok (.done, next) ∧
        next.sessions desk =
          { schema := last.session.schema
            history := .new config.historyLimit
            options := { config.scriptOptions with dialect := last.session.dialect }
            project := some id
            prompt := ((log.filter (·.id == id)).filterMap
              fun saving => saving.session.prompt).getLast?
            committed := some last.session.savedScript }
  keeps : ∀ moves id p q, o.repository.find? id = some p →
    (o.run moves).repository.find? id = some q → q.id = p.id ∧ q.createdAt = p.createdAt
  ends : ∀ desk id answer next, o.perform desk (.deleteProject id) = .ok (answer, next) →
    ∀ moves, (next.run moves).Gone id
  fails : ∀ desk s e, o.perform desk s = .error e → o.step (desk, s) = o

theorem Recorded.serves (h : o.Recorded log) : o.Serves log := by
  constructor
  case saves =>
    intro desk name answer next hperform
    obtain ⟨w, hw, rfl, -⟩ := exists_of_perform hperform
    cases Workspace.shares_of_perform hw with
    | other quiet => cases quiet
    | @saved _ p s' r save =>
        obtain ⟨hsaves, rfl⟩ := h.numbered.saves save
        exact ⟨hsaves.size, by rw [sessions_put]; rfl⟩
  case deletes =>
    intro desk id answer next hperform
    obtain ⟨w, hw, rfl, -⟩ := exists_of_perform hperform
    cases Workspace.shares_of_perform hw with
    | other quiet => cases quiet
    | deleted delete => exact (h.numbered.deletes delete).size
  case otherwise =>
    intro desk s hquiet
    cases hperform : o.perform desk s with
    | error e => rw [step_of_error hperform]
    | ok result =>
        obtain ⟨answer, next⟩ := result
        obtain ⟨w, hw, hput, hstep⟩ := exists_of_perform hperform
        rw [hstep, hput]
        cases Workspace.shares_of_perform hw with
        | saved => cases hquiet
        | deleted => cases hquiet
        | other quiet silent kept => exact kept
  case opens =>
    intro id p hp
    obtain ⟨last, hlast⟩ := h.latest id p hp
    have hid := List.find?_some hp
    rw [beq_iff_eq] at hid
    refine ⟨last, hlast.noted, fun desk config => ?_⟩
    have hsynced : p.schema.syncForeignKeys = last.session.schema := by
      rw [hlast.schema]
      exact (h.saved last hlast.mem).synced
    obtain ⟨next, hopen, hsession⟩ := o.exists_perform_open hp desk config
    refine ⟨next, hopen, hsession.trans ?_⟩
    rw [hsynced, hid, hlast.dialect, hlast.prompt, hlast.script]
  case keeps =>
    intro moves id p q hp hq
    have hstands : o.Stands id (· = p.createdAt) :=
      ⟨h.numbered.issued_of_find? hp, fun old hold => by
        rw [Option.some.inj (hold.symm.trans hp)]⟩
    have hpid := List.find?_some hp
    have hqid := List.find?_some hq
    rw [beq_iff_eq] at hpid hqid
    exact ⟨hqid.trans hpid.symm, (hstands.run h moves).created q hq⟩
  case ends => exact fun _ _ _ _ => h.gone_of_perform
  case fails => exact fun desk s e => step_of_error

end Office

/-- Sessions may save, open and delete the projects of one repository in any order, whatever else
they do: an opened project is what has been saved last. -/
theorem last_writer_wins (configs : Nat → Config) (moves : List (Nat × SessionStep)) :
    ((Office.new configs).run moves).Serves ((Office.new configs).savings moves) :=
  ((Office.Recorded.new configs).run moves).serves

end EntityRelation
