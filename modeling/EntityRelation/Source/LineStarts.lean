import EntityRelation.Source.Position

/-!
# Tables of line starts

The offsets at which the lines of a text start, for finding many places of one text. The table
names a line even when it is empty at the end of the text. A line that the table does not name
lies at the end.
-/

namespace EntityRelation

namespace Source

/-- A text and the offsets at which its lines start, the first line first. -/
structure LineStarts where
  text : List Char
  starts : List Nat

namespace LineStarts

/-- The offsets behind the line feeds of a text that starts at `offset`. -/
def afterLineFeeds (offset : Nat) : List Char → List Nat
  | [] => []
  | c :: rest =>
    let next := offset + c.utf8Size
    if c = '\n' then next :: afterLineFeeds next rest else afterLineFeeds next rest

/-- The table of a text. -/
def ofText (text : List Char) : LineStarts :=
  ⟨text, 0 :: afterLineFeeds 0 text⟩

/-- The rest of a text from an offset. -/
def dropBytes : Nat → List Char → List Char
  | _, [] => []
  | n, c :: rest => if n = 0 then c :: rest else dropBytes (n - c.utf8Size) rest

/-- The offset at which a line starts. -/
def lineStart? (table : LineStarts) : Nat → Option Nat
  | 0 => none
  | line + 1 => table.starts[line]?

/-- The offset of a place. -/
def offset (table : LineStarts) (place : Place) : Nat :=
  match table.lineStart? place.line with
  | none => Text.byteLength table.text
  | some start =>
    let line := dropBytes start table.text
    if place.column - 1 < line.length then start + Text.byteLength (line.take (place.column - 1))
    else Text.byteLength table.text

/-- The position of a place. -/
def position (table : LineStarts) (place : Place) : Position :=
  ⟨place.line, place.column, table.offset place⟩

end LineStarts

end Source

end EntityRelation
