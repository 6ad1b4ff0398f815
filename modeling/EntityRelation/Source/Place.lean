/-!
# Places in a text

A place counts lines from one and characters of a line from one. Only a line feed ends a line, and
it belongs to the line that it ends.
-/

namespace EntityRelation

namespace Source

/-- A line and a column, both counted from one. -/
structure Place where
  line : Nat
  column : Nat
  deriving DecidableEq, Repr, Inhabited

namespace Place

/-- Where a text starts. -/
def start : Place := ⟨1, 1⟩

/-- The place after a character. -/
def after (p : Place) (c : Char) : Place :=
  if c = '\n' then ⟨p.line + 1, 1⟩ else ⟨p.line, p.column + 1⟩

/-- The place after several characters. -/
def advance (p : Place) (cs : List Char) : Place :=
  cs.foldl after p

@[simp] theorem advance_nil (p : Place) : p.advance [] = p := rfl

theorem advance_cons (p : Place) (c : Char) (cs : List Char) :
    p.advance (c :: cs) = (p.after c).advance cs := rfl

theorem advance_append (p : Place) (cs ds : List Char) :
    p.advance (cs ++ ds) = (p.advance cs).advance ds := by
  simp [advance]

end Place

end Source

end EntityRelation
