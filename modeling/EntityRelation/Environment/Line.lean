import EntityRelation.Text.Blank

/-!
# Lines of a settings file

A line of a settings file gives a value to a name. A quoted value may run over several lines of
the text, so that lines are put together first: `logicalLines` joins a line with an open quote to
the next one and cuts a line at its comment. `LineContent.of` then finds the name and the text
of the value.
-/

namespace EntityRelation

namespace Environment

/-- Where the reader stands among quotes, blanks and escapes. -/
inductive LineState where
  | ordinary
  | blank
  | escape
  | single
  | singleEscape
  | double
  | doubleEscape
  | comment
  deriving DecidableEq, Repr

namespace LineState

/-- The state that a character outside quotes leads to. A number sign starts a comment only after
a blank, and the second of two blanks counts as any other character. -/
def afterUnquoted (wasBlank : Bool) (c : Char) : LineState :=
  if wasBlank && c = '#' then comment
  else if !wasBlank && Text.isBlank c && c ≠ '\n' && c ≠ '\r' then blank
  else if c = '\\' then escape
  else if c = '"' then double
  else if c = '\x27' then single
  else ordinary

/-- The state after one more character. -/
def next (s : LineState) (c : Char) : LineState :=
  match s with
  | ordinary => afterUnquoted false c
  | blank => afterUnquoted true c
  | escape => ordinary
  | single => if c = '\\' then singleEscape else if c = '\x27' then ordinary else single
  | singleEscape => single
  | double => if c = '\\' then doubleEscape else if c = '"' then ordinary else double
  | doubleEscape => double
  | comment => comment

/-- The part of a line before its comment, and the state that it leads to. -/
def scan (s : LineState) : List Char → List Char × LineState
  | [] => ([], s)
  | c :: rest =>
    match s.next c with
    | comment => ([], comment)
    | next =>
      let (kept, last) := scan next rest
      (c :: kept, last)

end LineState

/-- The lines of a text, each with the line feed that ends it. -/
def physicalLines : List Char → List (List Char)
  | [] => []
  | c :: rest =>
    if c = '\n' then [c] :: physicalLines rest
    else
      match physicalLines rest with
      | [] => [[c]]
      | line :: lines => (c :: line) :: lines

/-- A line without the line feed that ends it, and without a carriage return before that. -/
def withoutLineEnd (line : List Char) : List Char :=
  match line.reverse with
  | '\n' :: '\r' :: rest => rest.reverse
  | '\n' :: rest => rest.reverse
  | _ => line

/-- Lines put together, after the start of a line that ended in a state. The text must not end in
an open quote or after a blank; where it does, the last line is missing. -/
def logicalLines (start : List Char) (s : LineState) :
    List (List Char) → List (Option (List Char))
  | [] => if s = .ordinary then [] else [none]
  | line :: rest =>
    if (Text.trimStart (start ++ line)).head? = some '#' then
      some [] :: logicalLines [] .ordinary rest
    else
      match s.scan line with
      | (kept, .comment) => some (start ++ kept) :: logicalLines [] .ordinary rest
      | (kept, .ordinary) =>
        some (withoutLineEnd (start ++ kept)) :: logicalLines [] .ordinary rest
      | (kept, s) => logicalLines (start ++ kept) s rest

/-- What a line says. -/
inductive LineContent where
  | nothing
  | entry (name : String) (value : List Char)
  | fault
  deriving DecidableEq, Repr

/-- A name: a letter or an underscore, then letters, digits, underscores and points. -/
def name? (cs : List Char) : Option (String × List Char) :=
  let belongs (c : Char) : Bool := c.isAlphanum || c = '_' || c = '.'
  match cs with
  | [] => none
  | c :: _ =>
    if c.isAlpha || c = '_' then
      some (String.ofList (cs.takeWhile belongs), Text.trimStart (cs.dropWhile belongs))
    else none

/-- What a line says that gives a value to a name. -/
def assignment (name : String) (cs : List Char) : LineContent :=
  match cs with
  | '=' :: value =>
    match Text.trimStart value with
    | '#' :: _ => .entry name []
    | value => .entry name value
  | _ => .fault

/-- What a line says. The word `export` may stand before the name, unless it is the name. -/
def LineContent.of (line : List Char) : LineContent :=
  match Text.trim line with
  | [] | '#' :: _ => nothing
  | cs =>
    match name? cs with
    | none => fault
    | some ("export", rest) =>
      if rest.head? = some '=' then assignment "export" rest
      else (name? rest).elim fault fun (name, rest) => assignment name rest
    | some (name, rest) => assignment name rest

end Environment

end EntityRelation
