/-!
# The first match in a list

An id stands for the first element that bears it, so lists are read with `List.find?` and changed
at the place where `List.find?` reads. `updateFirst` changes that element and `eraseFirst` takes it
out; `find?_updateFirst` says that the two meet at the same place.
-/

namespace EntityRelation

variable {α : Type}

/-- The list with its first element that satisfies `p` changed by `f`. -/
def updateFirst (p : α → Bool) (f : α → α) : List α → List α
  | [] => []
  | a :: rest => if p a then f a :: rest else a :: updateFirst p f rest

/-- The list without its first element that satisfies `p`. -/
def eraseFirst (p : α → Bool) : List α → List α
  | [] => []
  | a :: rest => if p a then rest else a :: eraseFirst p rest

@[simp] theorem updateFirst_nil (p : α → Bool) (f : α → α) : updateFirst p f [] = [] := rfl

theorem updateFirst_cons (p : α → Bool) (f : α → α) (a : α) (rest : List α) :
    updateFirst p f (a :: rest) = if p a then f a :: rest else a :: updateFirst p f rest := rfl

@[simp] theorem length_updateFirst (p : α → Bool) (f : α → α) (as : List α) :
    (updateFirst p f as).length = as.length := by
  induction as with
  | nil => rfl
  | cons a rest ih => by_cases h : p a <;> simp [updateFirst_cons, h, ih]

/-- When the change keeps the property, the changed list shows the changed element. -/
theorem find?_updateFirst (p : α → Bool) (f : α → α) (hf : ∀ a, p a → p (f a)) (as : List α) :
    (updateFirst p f as).find? p = (as.find? p).map f := by
  induction as with
  | nil => rfl
  | cons a rest ih => by_cases h : p a <;> simp [updateFirst_cons, h, hf, ih]

/-- A list in which nothing satisfies the property stays as it is. -/
theorem updateFirst_eq_self (p : α → Bool) (f : α → α) (as : List α)
    (h : as.find? p = none) : updateFirst p f as = as := by
  induction as with
  | nil => rfl
  | cons a rest ih =>
    by_cases ha : p a
    · simp [ha] at h
    · simp [updateFirst_cons, ha, ih (by simpa [ha] using h)]

end EntityRelation
