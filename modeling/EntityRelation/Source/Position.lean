import EntityRelation.Json.Decode
import EntityRelation.Source.Place
import EntityRelation.Text.Bytes

/-!
# Positions in a text

A position is a place together with its offset in bytes of the encoded text. `Position.ofOffset`
finds the place of an offset, and `Position.ofPlace` the offset of a place. A place behind the end
of the text has the offset of the end.
-/

namespace EntityRelation

namespace Source

/-- A place and its offset in bytes. -/
structure Position where
  line : Nat
  column : Nat
  offset : Nat
  deriving DecidableEq, Repr, Inhabited

/-- A range of positions. -/
structure Span where
  start : Position
  stop : Position
  deriving DecidableEq, Repr, Inhabited

/-- The span of one position. -/
def Span.single (p : Position) : Span :=
  ⟨p, p⟩

/-- The place where the offset `target` lies, in a text that starts at `place` and `offset`. An
offset inside a character lies behind that character. -/
def placeOfOffset (place : Place) (offset target : Nat) : List Char → Place
  | [] => place
  | c :: rest =>
    if target ≤ offset then place
    else placeOfOffset (place.after c) (offset + c.utf8Size) target rest

/-- The text after its first `n` lines. -/
def dropLines : Nat → List Char → List Char
  | 0, cs => cs
  | _ + 1, [] => []
  | n + 1, c :: rest => if c = '\n' then dropLines n rest else dropLines (n + 1) rest

namespace Position

/-- The position of an offset. -/
def ofOffset (text : List Char) (offset : Nat) : Position :=
  let place := placeOfOffset .start 0 offset text
  ⟨place.line, place.column, offset⟩

/-- The position of a place. A column behind the end of its line goes on into the next lines. -/
def ofPlace (text : List Char) (place : Place) : Position :=
  let rest := dropLines (place.line - 1) text
  let total := Text.byteLength text
  ⟨place.line, place.column, total - Text.byteLength (rest.drop (place.column - 1))⟩

def toJson (p : Position) : Json :=
  .object [("line", .ofNat p.line), ("column", .ofNat p.column), ("offset", .ofNat p.offset)]

def slots : List (Decoder.Slot Position) :=
  [Decoder.slot "line" .required Decoder.nat fun line p => { p with line },
    Decoder.slot "column" .required Decoder.nat fun column p => { p with column },
    Decoder.slot "offset" .required Decoder.nat fun offset p => { p with offset }]

def ofJson : Decoder Position :=
  Decoder.record "struct SourcePosition" ⟨0, 0, 0⟩ slots

end Position

namespace Span

def toJson (s : Span) : Json :=
  .object [("start", s.start.toJson), ("end", s.stop.toJson)]

def slots : List (Decoder.Slot Span) :=
  [Decoder.slot "start" .required Position.ofJson fun start s => { s with start },
    Decoder.slot "end" .required Position.ofJson fun stop s => { s with stop }]

def ofJson : Decoder Span :=
  Decoder.record "struct SourceSpan" ⟨⟨0, 0, 0⟩, ⟨0, 0, 0⟩⟩ slots

end Span

end Source

end EntityRelation
