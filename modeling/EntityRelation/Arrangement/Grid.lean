import EntityRelation.Schema.Basic

/-!
# The grid arrangement

Tables stand in rows, in the order of the schema. A row holds as many tables as there are rows, or
one more, so the whole is about square.
-/

namespace EntityRelation

namespace Grid

/-- The least whole number whose square is at least `n`. -/
def ceilSqrt (n : Nat) : Nat :=
  ((List.range (n + 1)).find? fun c => n ≤ c * c).getD n

/-- The number of tables in a row. -/
def columns (count : Nat) : Nat :=
  max 1 (ceilSqrt count)

/-- The place of the table at an index. -/
def place (columns index : Nat) : Position where
  x := 100.0 + Float.ofNat (index % columns) * 300.0
  y := 100.0 + Float.ofNat (index / columns) * 250.0

end Grid

/-- The schema with its tables on a grid. -/
def Schema.arrangeOnGrid (s : Schema) : Schema :=
  let columns := Grid.columns s.entities.length
  { s with entities := s.entities.mapIdx fun i e => { e with position := Grid.place columns i } }

end EntityRelation
