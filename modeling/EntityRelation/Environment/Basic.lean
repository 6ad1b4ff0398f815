/-!
# Environments

An environment gives values to names. A value that is there stays: `Environment.supply` fills a
name only when it has no value, so of several sources the first one counts.
-/

namespace EntityRelation

/-- Values of names, where the first value of a name counts. -/
structure Environment where
  values : List (String × String) := []
  deriving DecidableEq, Repr

namespace Environment

/-- The value of a name. -/
def get? (e : Environment) (name : String) : Option String :=
  e.values.lookup name

/-- Whether an environment can hold a value: there the character with the number zero ends a
text. -/
def canHold (value : String) : Bool :=
  !value.toList.contains '\x00'

/-- The environment in which a name has a value, whatever it had before. -/
def assign (e : Environment) (name value : String) : Environment :=
  ⟨(name, value) :: e.values⟩

/-- The environment in which a name has a value, which is the given one if it had none. -/
def supply (e : Environment) (name value : String) : Environment :=
  if (e.get? name).isSome then e else e.assign name value

@[simp] theorem get?_assign_self (e : Environment) (name value : String) :
    (e.assign name value).get? name = some value := by
  simp [assign, get?]

theorem get?_assign_of_ne (e : Environment) {name other : String} (value : String)
    (h : other ≠ name) : (e.assign name value).get? other = e.get? other := by
  simp [assign, get?, List.lookup_cons, beq_false_of_ne h]

theorem get?_supply_self (e : Environment) (name value : String) :
    (e.supply name value).get? name = some ((e.get? name).getD value) := by
  unfold supply
  split
  · next h => obtain ⟨v, hv⟩ := Option.isSome_iff_exists.1 h; simp [hv]
  · next h => simp [Option.not_isSome_iff_eq_none.1 h]

theorem get?_supply_of_ne (e : Environment) {name other : String} (value : String)
    (h : other ≠ name) : (e.supply name value).get? other = e.get? other := by
  unfold supply
  split
  · rfl
  · exact e.get?_assign_of_ne value h

end Environment

end EntityRelation
