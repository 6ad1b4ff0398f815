/-!
# Undoing and redoing

A history holds the states before the current one, the latest first, and the states that were
undone, the next one first. A new state drops what was undone and forgets the oldest states beyond
the limit, which is at least one.
-/

namespace EntityRelation

/-- States to go back and forward to. -/
structure History (α : Type) where
  limit : Nat
  past : List α := []
  future : List α := []
  deriving Repr

namespace History

variable {α : Type}

/-- A history without states. -/
def new (limit : Nat) : History α :=
  { limit := max limit 1 }

/-- The history after a new state has replaced `previous`. -/
def push (h : History α) (previous : α) : History α :=
  { h with past := (previous :: h.past).take h.limit, future := [] }

/-- The state before the current one, and the history seen from there. -/
def undo? (h : History α) (current : α) : Option (α × History α) :=
  match h.past with
  | [] => none
  | previous :: past => some (previous, { h with past, future := current :: h.future })

/-- The state that was undone last, and the history seen from there. -/
def redo? (h : History α) (current : α) : Option (α × History α) :=
  match h.future with
  | [] => none
  | next :: future => some (next, { h with past := current :: h.past, future })

/-- The history without states. -/
def clear (h : History α) : History α :=
  { h with past := [], future := [] }

/-- Whether there is a state to go back to. -/
def canUndo (h : History α) : Bool :=
  !h.past.isEmpty

/-- Whether there is a state to go forward to. -/
def canRedo (h : History α) : Bool :=
  !h.future.isEmpty

@[simp] theorem past_push (h : History α) (a : α) :
    (h.push a).past = (a :: h.past).take h.limit := rfl

@[simp] theorem future_push (h : History α) (a : α) : (h.push a).future = [] := rfl

/-- Going back and then forward leads to where one was. -/
theorem redo?_of_undo? {h h' : History α} {a b : α} (hu : h.undo? a = some (b, h')) :
    h'.redo? b = some (a, h) := by
  obtain ⟨limit, past, future⟩ := h
  cases past with
  | nil => simp [undo?] at hu
  | cons previous past =>
    obtain ⟨rfl, rfl⟩ := by simpa [undo?] using hu
    rfl

end History

end EntityRelation
