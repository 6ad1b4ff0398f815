import EntityRelation.Proofs.Session.Transition
import Mathlib.Data.List.DropRight

/-!
# Undoing and redoing move a cursor along a timeline

A `Timeline` is a list of states with a cursor on one of them: an edit cuts off what comes after the
cursor, forgets what is too old and adds a state, and undoing and redoing move the cursor. A session
answers and ends up as this timeline does, whatever is tried on it (`run_follows_timeline`). The
stacks of its history are the two sides of the cursor.
-/

namespace EntityRelation

/-- States in the order in which they came about, with a cursor on the current one. -/
structure Timeline (α : Type) where
  states : List α
  cursor : Nat
  inside : cursor < states.length

namespace Timeline

variable {α : Type}

/-- The timeline that starts with a state. -/
def start (a : α) : Timeline α :=
  ⟨[a], 0, Nat.one_pos⟩

/-- The state at the cursor. -/
def current (t : Timeline α) : α :=
  t.states.get ⟨t.cursor, t.inside⟩

/-- The newest states up to the cursor, at most as many as the limit. -/
def kept (limit : Nat) (t : Timeline α) : List α :=
  (t.states.take (t.cursor + 1)).rtake limit

/-- The timeline after an edit: what was undone is dropped, and the new state follows the newest
states before it. -/
def edit (limit : Nat) (next : α) (t : Timeline α) : Timeline α :=
  ⟨t.kept limit ++ [next], (t.kept limit).length, by simp⟩

/-- The timeline with the cursor one state back, if there is one. -/
def back? (t : Timeline α) : Option (Timeline α) :=
  if t.cursor = 0 then none
  else some ⟨t.states, t.cursor - 1, Nat.lt_of_le_of_lt (Nat.sub_le _ _) t.inside⟩

/-- The timeline with the cursor one state forward, if there is one. -/
def forth? (t : Timeline α) : Option (Timeline α) :=
  if h : t.cursor + 1 < t.states.length then some ⟨t.states, t.cursor + 1, h⟩ else none

@[simp] theorem states_edit (limit : Nat) (next : α) (t : Timeline α) :
    (t.edit limit next).states = t.kept limit ++ [next] := rfl

@[simp] theorem cursor_edit (limit : Nat) (next : α) (t : Timeline α) :
    (t.edit limit next).cursor = (t.kept limit).length := rfl

theorem getElem?_cursor (t : Timeline α) : t.states[t.cursor]? = some t.current :=
  List.getElem?_eq_getElem t.inside

theorem ext_of {t u : Timeline α} (hstates : t.states = u.states) (hcursor : t.cursor = u.cursor) :
    t = u := by
  obtain ⟨states, cursor, inside⟩ := t
  obtain rfl : states = u.states := hstates
  obtain rfl : cursor = u.cursor := hcursor
  rfl

theorem length_edit_le (limit : Nat) (next : α) (t : Timeline α) :
    (t.edit limit next).states.length ≤ limit + 1 := by
  rw [states_edit, List.length_append, List.length_singleton, kept, List.rtake, List.length_drop]
  omega

end Timeline

/-- What is done to a timeline. -/
inductive TimelineStep where
  | edit (edit : SessionEdit)
  | undo
  | redo

/-- The step of a session. -/
def TimelineStep.toStep : TimelineStep → SessionStep
  | edit e => .apply e
  | undo => .undo
  | redo => .redo

/-- A timeline of schemas, and the ids for what is new. -/
structure TimelineEditor where
  timeline : Timeline Schema
  ids : IdSupply

namespace TimelineEditor

/-- The editor after its cursor has moved, if that is possible. -/
def travel (m : TimelineEditor) (target : Option (Timeline Schema)) :
    SessionAnswer × TimelineEditor :=
  match target with
  | some timeline => (.wasPossible true, { m with timeline })
  | none => (.wasPossible false, m)

/-- What a step answers and the editor after it. -/
def perform (limit : Nat) (m : TimelineEditor) :
    TimelineStep → Except SessionError (SessionAnswer × TimelineEditor)
  | .edit e =>
    match e.perform m.timeline.current m.ids with
    | .error error => .error (.edit error)
    | .ok (next, ids) => .ok (.done, ⟨m.timeline.edit limit next, ids⟩)
  | .undo => .ok (m.travel m.timeline.back?)
  | .redo => .ok (m.travel m.timeline.forth?)

/-- The editor after a step, whether it succeeds or not. -/
def step (limit : Nat) (m : TimelineEditor) (s : TimelineStep) : TimelineEditor :=
  match m.perform limit s with
  | .ok (_, m) => m
  | .error _ => m

/-- The editor after several steps. -/
def run (limit : Nat) (m : TimelineEditor) (steps : List TimelineStep) : TimelineEditor :=
  steps.foldl (step limit) m

theorem step_undo (limit : Nat) (m : TimelineEditor) :
    (m.step limit .undo).timeline.states = m.timeline.states ∧
      (m.step limit .undo).timeline.cursor = m.timeline.cursor - 1 := by
  by_cases hcursor : m.timeline.cursor = 0
  · simp [step, perform, travel, Timeline.back?, hcursor]
  · simp [step, perform, travel, Timeline.back?, hcursor]

theorem step_redo (limit : Nat) (m : TimelineEditor) :
    (m.step limit .redo).timeline.states = m.timeline.states ∧
      (m.step limit .redo).timeline.cursor =
        min (m.timeline.cursor + 1) (m.timeline.states.length - 1) := by
  have hinside := m.timeline.inside
  by_cases hcursor : m.timeline.cursor + 1 < m.timeline.states.length
  · simp [step, perform, travel, Timeline.forth?, hcursor]
    omega
  · simp [step, perform, travel, Timeline.forth?, hcursor]
    omega

/-- No step makes a timeline longer than the limit allows. -/
theorem length_step_le {limit : Nat} {m : TimelineEditor} (s : TimelineStep)
    (h : m.timeline.states.length ≤ limit + 1) :
    (m.step limit s).timeline.states.length ≤ limit + 1 := by
  cases s with
  | edit e =>
      rw [step, perform]
      cases e.perform m.timeline.current m.ids with
      | error error => exact h
      | ok performed => exact m.timeline.length_edit_le limit performed.1
  | undo => rwa [(step_undo limit m).1]
  | redo => rwa [(step_redo limit m).1]

theorem length_run_le {limit : Nat} (steps : List TimelineStep) {m : TimelineEditor}
    (h : m.timeline.states.length ≤ limit + 1) :
    (m.run limit steps).timeline.states.length ≤ limit + 1 := by
  induction steps generalizing m with
  | nil => exact h
  | cons s steps ih => exact ih (length_step_le s h)

end TimelineEditor

/-- The states that a session can go back to, its schema, and those that it can go forward to. -/
def Session.timeline (s : Session) : Timeline Schema :=
  ⟨s.history.past.reverse ++ s.schema :: s.history.future, s.history.past.length, by simp⟩

namespace Session

theorem current_timeline (s : Session) : s.timeline.current = s.schema := by
  simp [Timeline.current, timeline]

theorem timeline_replace (s : Session) (next : Schema) :
    (s.replace next).timeline = s.timeline.edit s.history.limit next := by
  have hkept : s.timeline.kept s.history.limit =
      ((s.schema :: s.history.past).take s.history.limit).reverse := by
    have hfront : s.timeline.states.take (s.timeline.cursor + 1) =
        (s.schema :: s.history.past).reverse := by
      rw [timeline, List.reverse_cons, List.take_append, List.length_reverse, Nat.add_sub_cancel_left,
        List.take_of_length_le (by simp)]
      rfl
    rw [Timeline.kept, hfront, List.rtake_eq_reverse_take_reverse, List.reverse_reverse]
  refine Timeline.ext_of ?_ ?_
  · rw [Timeline.states_edit, hkept]
    rfl
  · rw [Timeline.cursor_edit, hkept, List.length_reverse]
    rfl

theorem timeline_undo? (s : Session) : s.undo?.map timeline = s.timeline.back? := by
  cases hpast : s.history.past with
  | nil => simp [undo?, History.undo?, hpast, Timeline.back?, timeline]
  | cons previous past => simp [undo?, History.undo?, hpast, Timeline.back?, timeline]

theorem timeline_redo? (s : Session) : s.redo?.map timeline = s.timeline.forth? := by
  cases hfuture : s.history.future with
  | nil => simp [redo?, History.redo?, hfuture, Timeline.forth?, timeline]
  | cons next future => simp [redo?, History.redo?, hfuture, Timeline.forth?, timeline]

theorem limit_undo? {s s' : Session} (h : s.undo? = some s') :
    s'.history.limit = s.history.limit := by
  obtain ⟨previous, past, -, rfl⟩ := undo?_eq_some_iff.1 h
  rfl

theorem limit_redo? {s s' : Session} (h : s.redo? = some s') :
    s'.history.limit = s.history.limit := by
  obtain ⟨next, future, -, rfl⟩ := redo?_eq_some_iff.1 h
  rfl

end Session

namespace Workspace

/-- A workspace with a new session. -/
def fresh (config : Config) (repository : Repository) (ids : IdSupply) : Workspace :=
  { session := .new config, repository, ids }

/-- The timeline of a workspace and its ids. -/
def editor (w : Workspace) : TimelineEditor :=
  ⟨w.session.timeline, w.ids⟩

/-- The schemas that a workspace holds one after the other while edits are tried on it: the one
that it starts with, and one more for each edit that succeeds. -/
def visited : Workspace → List SessionEdit → List Schema
  | w, [] => [w.session.schema]
  | w, e :: edits =>
    match w.perform (.apply e) with
    | .error _ => visited w edits
    | .ok (_, next) => w.session.schema :: visited next edits

variable {w : Workspace}

/-! ## One step -/

theorem perform_apply (w : Workspace) (e : SessionEdit) :
    w.perform (.apply e) =
      match e.perform w.session.schema w.ids with
      | .error error => .error (.edit error)
      | .ok (next, ids) => .ok (.done, { w with session := w.session.replace next, ids }) := by
  rw [perform, Session.apply]
  cases e.perform w.session.schema w.ids with
  | error error => rfl
  | ok performed => rfl

theorem editor_travel {target : Option Session} {t : Option (Timeline Schema)}
    (h : target.map Session.timeline = t) :
    Prod.map id editor (w.travel target) = w.editor.travel t := by
  subst h
  cases target with
  | none => rfl
  | some session => rfl

/-- A step answers as the timeline does and leads to where the timeline is led. -/
theorem editor_perform (w : Workspace) (s : TimelineStep) :
    (w.perform s.toStep).map (Prod.map id editor) =
      w.editor.perform w.session.history.limit s := by
  cases s with
  | edit e =>
      rw [TimelineStep.toStep, perform_apply, TimelineEditor.perform, editor,
        Session.current_timeline]
      cases e.perform w.session.schema w.ids with
      | error error => rfl
      | ok performed =>
          simp only [Except.map, Prod.map, id, editor, Session.timeline_replace]
  | undo => exact congrArg Except.ok (editor_travel w.session.timeline_undo?)
  | redo => exact congrArg Except.ok (editor_travel w.session.timeline_redo?)

theorem editor_step (w : Workspace) (s : TimelineStep) :
    (w.step s.toStep).editor = w.editor.step w.session.history.limit s := by
  rw [step, TimelineEditor.step, ← editor_perform]
  cases w.perform s.toStep with
  | error error => rfl
  | ok performed => rfl

theorem limit_step (w : Workspace) (s : TimelineStep) :
    (w.step s.toStep).session.history.limit = w.session.history.limit := by
  cases s with
  | edit e =>
      rw [TimelineStep.toStep, step, perform_apply]
      cases e.perform w.session.schema w.ids with
      | error error => rfl
      | ok performed => rfl
  | undo =>
      rw [TimelineStep.toStep, step, perform]
      cases hundo : w.session.undo? with
      | none => rfl
      | some session => exact Session.limit_undo? hundo
  | redo =>
      rw [TimelineStep.toStep, step, perform]
      cases hredo : w.session.redo? with
      | none => rfl
      | some session => exact Session.limit_redo? hredo

/-! ## Many steps -/

theorem limit_run (w : Workspace) (steps : List TimelineStep) :
    (w.run (steps.map TimelineStep.toStep)).session.history.limit = w.session.history.limit := by
  induction steps generalizing w with
  | nil => rfl
  | cons s steps ih => exact (ih _).trans (limit_step w s)

theorem editor_run (w : Workspace) (steps : List TimelineStep) :
    (w.run (steps.map TimelineStep.toStep)).editor =
      w.editor.run w.session.history.limit steps := by
  induction steps generalizing w with
  | nil => rfl
  | cons s steps ih =>
      have hrest := ih (w.step s.toStep)
      rw [limit_step, editor_step] at hrest
      exact hrest

/-- Undoing keeps all states and moves the cursor back, though not beyond the oldest state. -/
theorem timeline_undone (w : Workspace) (k : Nat) :
    (w.run (List.replicate k .undo)).session.timeline.states = w.session.timeline.states ∧
      (w.run (List.replicate k .undo)).session.timeline.cursor =
        w.session.timeline.cursor - k := by
  induction k generalizing w with
  | zero => exact ⟨rfl, rfl⟩
  | succ k ih =>
      have hstep := congrArg TimelineEditor.timeline (editor_step w .undo)
      obtain ⟨hstates, hcursor⟩ := ih (w.step .undo)
      obtain ⟨hstates', hcursor'⟩ := TimelineEditor.step_undo w.session.history.limit w.editor
      rw [← hstep] at hstates' hcursor'
      refine ⟨hstates.trans hstates', hcursor.trans ?_⟩
      change (w.step .undo).session.timeline.cursor = w.session.timeline.cursor - 1 at hcursor'
      omega

/-- Redoing keeps all states and moves the cursor forward, though not beyond the newest state. -/
theorem timeline_redone (w : Workspace) (k : Nat) :
    (w.run (List.replicate k .redo)).session.timeline.states = w.session.timeline.states ∧
      (w.run (List.replicate k .redo)).session.timeline.cursor =
        min (w.session.timeline.cursor + k) (w.session.timeline.states.length - 1) := by
  induction k generalizing w with
  | zero =>
      have hinside := w.session.timeline.inside
      refine ⟨rfl, ?_⟩
      change w.session.timeline.cursor = _
      omega
  | succ k ih =>
      have hstep := congrArg TimelineEditor.timeline (editor_step w .redo)
      obtain ⟨hstates, hcursor⟩ := ih (w.step .redo)
      obtain ⟨hstates', hcursor'⟩ := TimelineEditor.step_redo w.session.history.limit w.editor
      rw [← hstep] at hstates' hcursor'
      refine ⟨hstates.trans hstates', hcursor.trans ?_⟩
      change (w.step .redo).session.timeline.states = w.session.timeline.states at hstates'
      change (w.step .redo).session.timeline.cursor = min (w.session.timeline.cursor + 1)
        (w.session.timeline.states.length - 1) at hcursor'
      rw [hstates']
      omega

/-- Edits on the newest state leave a timeline of the newest schemas that were visited, with the
cursor on the last. -/
theorem timeline_edited {before : List Schema}
    (hstates : w.session.timeline.states =
      (before ++ [w.session.schema]).rtake (w.session.history.limit + 1))
    (hcursor : w.session.timeline.cursor + 1 = w.session.timeline.states.length)
    (edits : List SessionEdit) :
    (w.run (edits.map .apply)).session.timeline.states =
        (before ++ w.visited edits).rtake (w.session.history.limit + 1) ∧
      (w.run (edits.map .apply)).session.timeline.cursor + 1 =
        (w.run (edits.map .apply)).session.timeline.states.length := by
  induction edits generalizing w before with
  | nil => exact ⟨hstates, hcursor⟩
  | cons e edits ih =>
      rw [List.map_cons, run, List.foldl_cons, visited]
      rw [step, perform_apply]
      cases e.perform w.session.schema w.ids with
      | error error => exact ih hstates hcursor
      | ok performed =>
          have hkept : w.session.timeline.kept w.session.history.limit =
              (before ++ [w.session.schema]).rtake w.session.history.limit := by
            rw [Timeline.kept, hcursor, List.take_length, hstates,
              List.rtake_eq_reverse_take_reverse, List.rtake_eq_reverse_take_reverse,
              List.reverse_reverse, List.take_take, Nat.min_eq_left (Nat.le_succ _),
              List.rtake_eq_reverse_take_reverse]
          have hnext : (w.session.replace performed.1).timeline.states =
              (before ++ [w.session.schema] ++ [performed.1]).rtake
                (w.session.history.limit + 1) := by
            rw [Session.timeline_replace, Timeline.states_edit, hkept, List.rtake_concat_succ]
          have hlast : (w.session.replace performed.1).timeline.cursor + 1 =
              (w.session.replace performed.1).timeline.states.length := by
            rw [Session.timeline_replace, Timeline.states_edit, Timeline.cursor_edit,
              List.length_append, List.length_singleton]
          have hrest := ih (w := { w with session := w.session.replace performed.1
                                          ids := performed.2 }) hnext hlast
          rw [List.append_assoc] at hrest
          exact hrest

/-! ## New sessions -/

variable (config : Config) (repository : Repository) (ids : IdSupply)

/-- A session goes back exactly where it has something to go back to. -/
theorem perform_undo_eq_iff (w : Workspace) :
    w.perform .undo = .ok (.wasPossible false, w) ↔ w.session.history.past = [] := by
  rw [perform]
  cases hpast : w.session.history.past with
  | nil => simp [travel, Session.undo?, History.undo?, hpast]
  | cons previous past => simp [travel, Session.undo?, History.undo?, hpast]

/-- A session goes forward exactly where something was undone. -/
theorem perform_redo_eq_iff (w : Workspace) :
    w.perform .redo = .ok (.wasPossible false, w) ↔ w.session.history.future = [] := by
  rw [perform]
  cases hfuture : w.session.history.future with
  | nil => simp [travel, Session.redo?, History.redo?, hfuture]
  | cons next future => simp [travel, Session.redo?, History.redo?, hfuture]

theorem perform_undo (w : Workspace) :
    (w.perform .undo).map Prod.fst = .ok (.wasPossible (0 < w.session.timeline.cursor)) := by
  rw [perform]
  cases hpast : w.session.history.past with
  | nil => simp [travel, Session.undo?, History.undo?, hpast, Session.timeline, Except.map]
  | cons previous past =>
      simp [travel, Session.undo?, History.undo?, hpast, Session.timeline, Except.map]

theorem perform_redo (w : Workspace) :
    (w.perform .redo).map Prod.fst = .ok (.wasPossible
      (w.session.timeline.cursor + 1 < w.session.timeline.states.length)) := by
  rw [perform]
  cases hfuture : w.session.history.future with
  | nil => simp [travel, Session.redo?, History.redo?, hfuture, Session.timeline, Except.map]
  | cons next future =>
      simp [travel, Session.redo?, History.redo?, hfuture, Session.timeline, Except.map]

/-- After edits, a new session holds the newest schemas that were visited, and can go back to as
many of them as were reached by an edit, up to the limit. -/
theorem timeline_of_visited (edits : List SessionEdit) :
    let w := (fresh config repository ids).run (edits.map .apply)
    let visited := (fresh config repository ids).visited edits
    let undos := min (visited.length - 1) (max config.historyLimit 1)
    w.session.timeline.cursor = undos ∧
      w.session.timeline.states.length = undos + 1 ∧
      ∀ i ≤ undos, w.session.timeline.states[i]? = visited[visited.length - 1 - undos + i]? := by
  intro w visited undos
  have hnew : (fresh config repository ids).session.timeline.states =
      ([] ++ [(fresh config repository ids).session.schema]).rtake
        ((fresh config repository ids).session.history.limit + 1) := by
    rw [List.rtake_concat_succ, List.rtake_nil]
    rfl
  obtain ⟨hstates, hcursor⟩ := timeline_edited hnew rfl edits
  change w.session.timeline.states = visited.rtake (max config.historyLimit 1 + 1) at hstates
  change w.session.timeline.cursor + 1 = w.session.timeline.states.length at hcursor
  have hundos : undos = min (visited.length - 1) (max config.historyLimit 1) := rfl
  have hpos : 0 < visited.length := by
    have hinside := w.session.timeline.inside
    rw [hstates, List.rtake, List.length_drop] at hinside
    exact Nat.lt_of_lt_of_le (Nat.zero_lt_of_lt hinside) (Nat.sub_le _ _)
  have hlength : w.session.timeline.states.length = undos + 1 := by
    rw [hstates, List.rtake, List.length_drop]
    omega
  refine ⟨by omega, hlength, fun i hi => ?_⟩
  rw [hstates, List.rtake, List.getElem?_drop]
  congr 1
  omega

/-- Where the timeline holds the last schemas that were visited, going back and then forward leads
through them. -/
theorem undo_redo_visited {last : Workspace} {visited : List Schema} {undos : Nat}
    (hundos : undos ≤ visited.length - 1) (hcursor : last.session.timeline.cursor = undos)
    (hlength : last.session.timeline.states.length = undos + 1)
    (hget : ∀ i ≤ undos,
      last.session.timeline.states[i]? = visited[visited.length - 1 - undos + i]?) :
    (∀ k ≤ undos,
      let v := last.run (List.replicate k .undo)
      visited[visited.length - 1 - k]? = some v.session.schema ∧
        (v.perform .undo).map Prod.fst = .ok (.wasPossible (k < undos))) ∧
    ∀ k ≤ undos,
      let v := (last.run (List.replicate undos .undo)).run (List.replicate k .redo)
      visited[visited.length - 1 - undos + k]? = some v.session.schema ∧
        (v.perform .redo).map Prod.fst = .ok (.wasPossible (k < undos)) := by
  refine ⟨fun k hk => ?_, fun k hk => ?_⟩
  · intro v
    obtain ⟨hstates, hback⟩ := timeline_undone last k
    change v.session.timeline.states = last.session.timeline.states at hstates
    change v.session.timeline.cursor = last.session.timeline.cursor - k at hback
    have hschema := v.session.timeline.getElem?_cursor
    rw [v.session.current_timeline, hstates, hback, hcursor, hget _ (Nat.sub_le _ _)] at hschema
    refine ⟨?_, ?_⟩
    · rw [← hschema]
      congr 1
      omega
    · rw [perform_undo, hback, hcursor]
      simp only [Nat.sub_pos_iff_lt]
  · intro v
    obtain ⟨hfirst, hback⟩ := timeline_undone last undos
    obtain ⟨hstates, hforth⟩ := timeline_redone (last.run (List.replicate undos .undo)) k
    rw [hfirst] at hstates
    rw [hfirst, hback, hcursor, hlength, Nat.sub_self, Nat.zero_add, Nat.add_sub_cancel,
      Nat.min_eq_left hk] at hforth
    change v.session.timeline.states = last.session.timeline.states at hstates
    change v.session.timeline.cursor = k at hforth
    have hschema := v.session.timeline.getElem?_cursor
    rw [v.session.current_timeline, hstates, hforth, hget k hk] at hschema
    refine ⟨hschema, ?_⟩
    rw [perform_redo, hstates, hforth, hlength]
    simp only [Nat.add_lt_add_iff_right]

/-- A new session is led by its steps as a timeline that starts with the empty schema, and gives the
answers that this timeline gives. A step that fails, and going where there is nothing, change
nothing at all. What can be undone and redone stays within the limit. After any edits, as many can
be undone as have succeeded, up to the limit, and then as many be redone, each time with the schema
that was visited there. -/
theorem run_follows_timeline (steps : List TimelineStep) :
    let limit := max config.historyLimit 1
    let w := (fresh config repository ids).run (steps.map TimelineStep.toStep)
    let m := TimelineEditor.run limit ⟨Timeline.start {}, ids⟩ steps
    w.editor = m ∧ w.session.schema = m.timeline.current ∧
      (∀ s : TimelineStep, (w.perform s.toStep).map (Prod.map id editor) = m.perform limit s) ∧
      (∀ e error, w.perform (.apply e) = .error error → w.step (.apply e) = w) ∧
      (w.perform .undo = .ok (.wasPossible false, w) ↔ w.session.history.past = []) ∧
      (w.perform .redo = .ok (.wasPossible false, w) ↔ w.session.history.future = []) ∧
      w.session.history.past.length + w.session.history.future.length ≤ limit ∧
      ∀ edits : List SessionEdit,
        let visited := (fresh config repository ids).visited edits
        let last := (fresh config repository ids).run (edits.map .apply)
        let undos := min (visited.length - 1) limit
        let first := last.run (List.replicate undos .undo)
        (∀ k ≤ undos,
          let v := last.run (List.replicate k .undo)
          visited[visited.length - 1 - k]? = some v.session.schema ∧
            (v.perform .undo).map Prod.fst = .ok (.wasPossible (k < undos))) ∧
        ∀ k ≤ undos,
          let v := first.run (List.replicate k .redo)
          visited[visited.length - 1 - undos + k]? = some v.session.schema ∧
            (v.perform .redo).map Prod.fst = .ok (.wasPossible (k < undos)) := by
  intro limit w m
  have heditor : w.editor = m := editor_run (fresh config repository ids) steps
  have hlimit : w.session.history.limit = limit := limit_run (fresh config repository ids) steps
  refine ⟨heditor, ?_, fun s => ?_, fun e error herror => ?_, perform_undo_eq_iff w,
    perform_redo_eq_iff w, ?_, fun edits => ?_⟩
  · rw [← heditor]
    exact w.session.current_timeline.symm
  · rw [editor_perform, heditor, hlimit]
  · rw [step, herror]
  · have hlength : m.timeline.states.length ≤ limit + 1 :=
      TimelineEditor.length_run_le steps (Nat.le_add_left 1 limit)
    rw [← heditor] at hlength
    change (w.session.history.past.reverse ++ w.session.schema ::
      w.session.history.future).length ≤ limit + 1 at hlength
    rw [List.length_append, List.length_reverse, List.length_cons] at hlength
    omega
  · obtain ⟨hcursor, hlength, hget⟩ := timeline_of_visited config repository ids edits
    exact undo_redo_visited (Nat.min_le_left _ _) hcursor hlength hget

end Workspace

end EntityRelation
