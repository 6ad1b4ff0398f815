/-!
# Searching a text

`occursIn` looks for a piece of text anywhere in another.
-/

namespace EntityRelation

namespace Text

/-- Whether a piece stands somewhere in a text. -/
def occursIn (piece : List Char) : List Char → Bool
  | [] => piece.isEmpty
  | c :: rest => piece.isPrefixOf (c :: rest) || occursIn piece rest

theorem occursIn_iff {piece cs : List Char} : occursIn piece cs = true ↔ piece <:+: cs := by
  induction cs with
  | nil => simp [occursIn]
  | cons c rest ih => simp [occursIn, ih, List.infix_cons_iff]

end Text

end EntityRelation
