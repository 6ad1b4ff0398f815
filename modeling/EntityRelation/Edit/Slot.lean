import EntityRelation.Schema.Basic

/-!
# Slots for new tables

A new table is put on the first slot of a grid where it overlaps no other table. Places may be made
of any kind of numbers that can be subtracted and compared, and `ofNat` says which number of that
kind a natural number is; diagrams are made of floating-point numbers. A table covers at most four
slots, so one more than four times the number of tables are looked at.
-/

namespace EntityRelation

namespace Slot

/-- The width of a table on the diagram. -/
def tableWidth : Nat := 250

/-- The height of a table on the diagram. -/
def tableHeight : Nat := 200

/-- The space between two slots. -/
def spacing : Nat := 50

/-- The number of slots in a row. -/
def perRow : Nat := 4

/-- The place of a slot. -/
def place (i : Nat) : Nat × Nat :=
  (100 + i % perRow * (tableWidth + spacing), 100 + i / perRow * (tableHeight + spacing))

section

variable {α : Type} [Sub α] [LT α] [DecidableLT α]

/-- Whether two numbers are less than `bound` apart. -/
def near (bound a b : α) : Bool :=
  a - b < bound && b - a < bound

/-- Whether tables at two places overlap. -/
def overlap (ofNat : Nat → α) (p q : α × α) : Bool :=
  near (ofNat tableWidth) p.1 q.1 && near (ofNat tableHeight) p.2 q.2

/-- Whether a table on a slot overlaps none of the tables at some places. -/
def isFree (ofNat : Nat → α) (places : List (α × α)) (i : Nat) : Bool :=
  !places.any (overlap ofNat ((place i).map ofNat ofNat))

/-- The first free slot. -/
def firstFree (ofNat : Nat → α) (places : List (α × α)) : Nat :=
  ((List.range (4 * places.length + 1)).find? (isFree ofNat places)).getD places.length

end

/-- The position of a slot on the diagram. -/
def position (i : Nat) : Position :=
  ⟨Float.ofNat (place i).1, Float.ofNat (place i).2⟩

end Slot

/-- The position of a new table. -/
def Schema.freePosition (s : Schema) : Position :=
  Slot.position (Slot.firstFree Float.ofNat (s.entities.map fun e => (e.position.x, e.position.y)))

end EntityRelation
