/-!
# Plane vectors

Vectors with floating-point coordinates, for tables that are moved by forces. A vector that is
nearly zero has no direction.
-/

namespace EntityRelation

/-- The larger of two numbers; a number that is not one does not count. -/
def floatMax (x y : Float) : Float :=
  if x.isNaN then y else if y.isNaN then x else if x < y then y else x

/-- The smaller of two numbers; a number that is not one does not count. -/
def floatMin (x y : Float) : Float :=
  if x.isNaN then y else if y.isNaN then x else if y < x then y else x

/-- One with the sign of a number, minus one for `-0.0`. -/
def floatSign (x : Float) : Float :=
  if x.isNaN then x else if x.toBits.toNat < Nat.pow 2 63 then 1.0 else -1.0

/-- A vector of the plane. -/
structure Vector2 where
  x : Float
  y : Float
  deriving Repr, Inhabited

namespace Vector2

/-- The vector without length. -/
def zero : Vector2 := ⟨0.0, 0.0⟩

instance : Add Vector2 := ⟨fun v w => ⟨v.x + w.x, v.y + w.y⟩⟩

instance : Sub Vector2 := ⟨fun v w => ⟨v.x - w.x, v.y - w.y⟩⟩

/-- The vector times a factor. -/
def scale (v : Vector2) (factor : Float) : Vector2 :=
  ⟨v.x * factor, v.y * factor⟩

/-- The length of the vector. -/
def length (v : Vector2) : Float :=
  (v.x * v.x + v.y * v.y).sqrt

/-- The vector of length one in the same direction, or of length zero if it has no direction. -/
def normalize (v : Vector2) : Vector2 :=
  let n := v.length
  if n < 0.0001 then zero else ⟨v.x / n, v.y / n⟩

end Vector2

end EntityRelation
