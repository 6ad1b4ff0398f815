import EntityRelation.Proofs.Edit.Preservation
import EntityRelation.Session.Workspace

/-!
# How the steps of a session succeed

The ways in which a step succeeds are written down once, each with what it needs, what it answers
and the workspace that it leaves (`Workspace.Transition`). There are no others
(`Workspace.perform_eq_ok_iff`), so what sessions keep is proved by cases on them.
-/

namespace EntityRelation

theorem eq_ok_of_mapError_eq_ok {ε ε' α : Type} {x : Except ε α} {f : ε → ε'} {a : α}
    (h : x.mapError f = .ok a) : x = .ok a := by
  cases x with
  | error e => cases h
  | ok b => exact congrArg Except.ok (Except.ok.inj h)

/-! ## Actions of a session -/

namespace Session

variable {s s' : Session}

theorem apply_eq_ok_iff {ids left : IdSupply} {edit : SessionEdit} :
    s.apply ids edit = .ok (s', left) ↔
      ∃ next, edit.perform s.schema ids = .ok (next, left) ∧ s' = s.replace next := by
  rw [apply]
  cases edit.perform s.schema ids with
  | error e => simp
  | ok performed => simp [Prod.ext_iff, and_comm, eq_comm]

theorem undo?_eq_some_iff :
    s.undo? = some s' ↔ ∃ previous past, s.history.past = previous :: past ∧
      s' = { s with
        schema := previous
        history := { s.history with past, future := s.schema :: s.history.future } } := by
  cases hpast : s.history.past with
  | nil => simp [undo?, History.undo?, hpast]
  | cons previous past => simp [undo?, History.undo?, hpast, eq_comm]

theorem redo?_eq_some_iff :
    s.redo? = some s' ↔ ∃ next future, s.history.future = next :: future ∧
      s' = { s with
        schema := next
        history := { s.history with past := s.schema :: s.history.past, future } } := by
  cases hfuture : s.history.future with
  | nil => simp [redo?, History.redo?, hfuture]
  | cons next future => simp [redo?, History.redo?, hfuture, eq_comm]

/-- Whether the validator accepts the schema for a script. -/
def isCommittable (s : Session) : Bool :=
  (Validator.validate { dialect := some s.dialect } s.schema).isValid

theorem commit_eq_ok_iff {script : String} :
    s.commit = .ok (script, s') ↔
      s.isCommittable = true ∧ script = s.script ∧ s' = { s with committed := some s.script } := by
  rw [commit, isCommittable]
  split
  · next hvalid => simp [hvalid, eq_comm]
  · next hvalid => simp [hvalid]

/-- The session with a schema that was generated from a prompt. -/
def adopt (s : Session) (prompt : String) (g : Generated) : Session :=
  { s.replace g.schema with prompt := some prompt, committed := some g.script }

theorem generate_eq_ok_iff {prompt : String} {answer : ServiceAnswer} {issues : List Issue} :
    s.generate prompt answer = .ok (issues, s') ↔
      ∃ g, Generated.ofAnswer prompt answer = .ok g ∧ issues = g.warnings ∧
        s' = s.adopt prompt g := by
  rw [generate]
  cases Generated.ofAnswer prompt answer with
  | error e => simp
  | ok g => simp [adopt, eq_comm]

/-- A session that is saved updates its project, or creates one if it has none. -/
theorem save_cases {r r' : Repository} {name : String} {p : Project}
    (hsave : s.save r name = .ok (p, s', r')) :
    s' = { s with project := some p.id } ∧
      ((∃ id, s.project = some id ∧ r.update id (s.change name) = .ok (p, r')) ∨
        s.project = none ∧ r.create (s.draft name) = .ok (p, r')) := by
  unfold Session.save at hsave
  dsimp only at hsave
  split at hsave
  · cases hsave
  · next project r'' hsaved =>
    obtain ⟨rfl, hrest⟩ := Prod.mk.inj (Except.ok.inj hsave)
    obtain ⟨rfl, rfl⟩ := Prod.mk.inj hrest
    refine ⟨rfl, ?_⟩
    split at hsaved
    · next id hid => exact .inl ⟨id, hid, hsaved⟩
    · next hnone => exact .inr ⟨hnone, hsaved⟩

/-- The session that is opened on a project. -/
def ofProject (config : Config) (p : Project) : Session :=
  { (new config).setDialect p.dialect with
    schema := p.schema.syncForeignKeys
    project := some p.id
    prompt := p.prompt
    committed := some p.script }

theorem open?_eq_ok_iff {r : Repository} {config : Config} {id : ProjectId} :
    open? r config id = .ok s ↔ ∃ p, r.find? id = some p ∧ s = ofProject config p := by
  rw [open?]
  cases r.find? id with
  | none => simp
  | some p => simp [ofProject, eq_comm]

end Session

/-! ## Steps -/

namespace Workspace

/-- How a step succeeds: what it answers and the workspace that it leaves. -/
inductive Transition (w : Workspace) : SessionStep → SessionAnswer → Workspace → Prop where
  | apply {edit : SessionEdit} {next : Schema} {ids : IdSupply}
      (edited : edit.perform w.session.schema w.ids = .ok (next, ids)) :
      Transition w (.apply edit) .done { w with session := w.session.replace next, ids }
  | undo {s : Session} (earlier : w.session.undo? = some s) :
      Transition w .undo (.wasPossible true) { w with session := s }
  | undoNothing (oldest : w.session.undo? = none) : Transition w .undo (.wasPossible false) w
  | redo {s : Session} (later : w.session.redo? = some s) :
      Transition w .redo (.wasPossible true) { w with session := s }
  | redoNothing (newest : w.session.redo? = none) : Transition w .redo (.wasPossible false) w
  | script : Transition w .script (.text w.session.script) w
  | diagram : Transition w .diagram (.diagram w.session.diagram) w
  | commit (committable : w.session.isCommittable = true) :
      Transition w .commit (.text w.session.script)
        { w with session := { w.session with committed := some w.session.script } }
  | setDialect (dialect : Dialect) :
      Transition w (.setDialect dialect) .done { w with session := w.session.setDialect dialect }
  | generate {prompt : String} {answer : ServiceAnswer} {g : Generated}
      (accepted : Generated.ofAnswer prompt answer = .ok g) :
      Transition w (.generate prompt answer) (.issues g.warnings)
        { w with session := w.session.adopt prompt g }
  | save {name : String} {p : Project} {r : Repository}
      (saved : w.session.save w.repository name =
        .ok (p, { w.session with project := some p.id }, r)) :
      Transition w (.save name) (.project p)
        { w with session := { w.session with project := some p.id }, repository := r }
  | openProject {id : ProjectId} {config : Config} {p : Project}
      (found : w.repository.find? id = some p) :
      Transition w (.openProject id config) .done { w with session := .ofProject config p }
  | deleteProject {id : ProjectId} {r : Repository} (deleted : w.repository.delete id = .ok r) :
      Transition w (.deleteProject id) .done { w with repository := r }
  | countProjects : Transition w .countProjects (.count w.repository.size) w

variable {w w' : Workspace} {step : SessionStep} {answer : SessionAnswer}

/-- A step that succeeds does so in one of the ways. -/
theorem Transition.of_perform (h : w.perform step = .ok (answer, w')) :
    w.Transition step answer w' := by
  cases step with
  | apply edit =>
      obtain ⟨⟨s, ids⟩, hs, h⟩ := exists_of_bind_eq_ok h
      obtain ⟨rfl, rfl⟩ := Prod.mk.inj (Except.ok.inj h)
      obtain ⟨next, hedited, rfl⟩ := Session.apply_eq_ok_iff.1 hs
      exact .apply hedited
  | undo =>
      cases hundo : w.session.undo? with
      | none =>
          rw [perform, hundo] at h
          obtain ⟨rfl, rfl⟩ := Prod.mk.inj (Except.ok.inj h)
          exact .undoNothing hundo
      | some s =>
          rw [perform, hundo] at h
          obtain ⟨rfl, rfl⟩ := Prod.mk.inj (Except.ok.inj h)
          exact .undo hundo
  | redo =>
      cases hredo : w.session.redo? with
      | none =>
          rw [perform, hredo] at h
          obtain ⟨rfl, rfl⟩ := Prod.mk.inj (Except.ok.inj h)
          exact .redoNothing hredo
      | some s =>
          rw [perform, hredo] at h
          obtain ⟨rfl, rfl⟩ := Prod.mk.inj (Except.ok.inj h)
          exact .redo hredo
  | script =>
      obtain ⟨rfl, rfl⟩ := Prod.mk.inj (Except.ok.inj h)
      exact .script
  | diagram =>
      obtain ⟨rfl, rfl⟩ := Prod.mk.inj (Except.ok.inj h)
      exact .diagram
  | commit =>
      obtain ⟨⟨script, s⟩, hs, h⟩ := exists_of_bind_eq_ok h
      obtain ⟨rfl, rfl⟩ := Prod.mk.inj (Except.ok.inj h)
      obtain ⟨hvalid, rfl, rfl⟩ := Session.commit_eq_ok_iff.1 hs
      exact .commit hvalid
  | setDialect dialect =>
      obtain ⟨rfl, rfl⟩ := Prod.mk.inj (Except.ok.inj h)
      exact .setDialect dialect
  | generate prompt answer =>
      obtain ⟨⟨issues, s⟩, hs, h⟩ := exists_of_bind_eq_ok h
      obtain ⟨rfl, rfl⟩ := Prod.mk.inj (Except.ok.inj h)
      obtain ⟨g, hg, rfl, rfl⟩ := Session.generate_eq_ok_iff.1 hs
      exact .generate hg
  | save name =>
      obtain ⟨⟨p, s, r⟩, hs, h⟩ := exists_of_bind_eq_ok h
      obtain ⟨rfl, rfl⟩ := Prod.mk.inj (Except.ok.inj h)
      obtain ⟨rfl, -⟩ := Session.save_cases hs
      exact .save hs
  | openProject id config =>
      obtain ⟨s, hs, h⟩ := exists_of_bind_eq_ok h
      obtain ⟨rfl, rfl⟩ := Prod.mk.inj (Except.ok.inj h)
      obtain ⟨p, hp, rfl⟩ := Session.open?_eq_ok_iff.1 hs
      exact .openProject hp
  | deleteProject id =>
      obtain ⟨r, hr, h⟩ := exists_of_bind_eq_ok h
      obtain ⟨rfl, rfl⟩ := Prod.mk.inj (Except.ok.inj h)
      exact .deleteProject (eq_ok_of_mapError_eq_ok hr)
  | countProjects =>
      obtain ⟨rfl, rfl⟩ := Prod.mk.inj (Except.ok.inj h)
      exact .countProjects

theorem Transition.perform_eq (h : w.Transition step answer w') :
    w.perform step = .ok (answer, w') := by
  cases h with
  | apply edited =>
      rw [perform, Session.apply_eq_ok_iff.2 ⟨_, edited, rfl⟩]
      rfl
  | undo earlier =>
      rw [perform, earlier]
      rfl
  | undoNothing oldest =>
      rw [perform, oldest]
      rfl
  | redo later =>
      rw [perform, later]
      rfl
  | redoNothing newest =>
      rw [perform, newest]
      rfl
  | commit committable =>
      rw [perform, Session.commit_eq_ok_iff.2 ⟨committable, rfl, rfl⟩]
      rfl
  | generate accepted =>
      rw [perform, Session.generate_eq_ok_iff.2 ⟨_, accepted, rfl, rfl⟩]
      rfl
  | save saved =>
      rw [perform, saved]
      rfl
  | openProject found =>
      rw [perform, Session.open?_eq_ok_iff.2 ⟨_, found, rfl⟩]
      rfl
  | deleteProject deleted =>
      rw [perform, deleted]
      rfl
  | script | diagram | setDialect _ | countProjects => rfl

/-- The ways are exactly those in which steps succeed. -/
theorem perform_eq_ok_iff : w.perform step = .ok (answer, w') ↔ w.Transition step answer w' :=
  ⟨.of_perform, Transition.perform_eq⟩

end Workspace

end EntityRelation
