/-!
# Sets of characters as ranges

A property of characters is a list of closed ranges of code points. The ASCII part of a property
is written as a test of its own where the property is used, so that the ranges list only what
lies beyond it.
-/

namespace EntityRelation

namespace Text

/-- A set of code points as closed ranges, lowest first. -/
abbrev Ranges := List (Nat × Nat)

/-- Whether a code point lies in one of the ranges. -/
def Ranges.contains (ranges : Ranges) (code : Nat) : Bool :=
  ranges.any fun range => range.1 ≤ code && code ≤ range.2

end Text

end EntityRelation
