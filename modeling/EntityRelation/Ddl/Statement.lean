import EntityRelation.Ddl.Clause
import EntityRelation.Decimal.FloatText
import EntityRelation.Schema.Basic

/-!
# Statements

A semicolon ends a statement. A statement keeps the comments in front of its first lexeme, where
the position of a table may be noted; comments inside it are dropped.
-/

namespace EntityRelation

namespace Ddl

/-- The lexemes of a statement and the comments before it. -/
structure Statement where
  lexemes : Clause
  comments : List Lexeme
  deriving DecidableEq, Repr

namespace Statement

/-- The statements of a script, where the current one has the lexemes and comments so far (last
ones first). Statements without lexemes are none. -/
def collect (lexemes comments : List Lexeme) : List Lexeme → List Statement
  | [] => if lexemes.isEmpty then [] else [⟨lexemes.reverse, comments.reverse⟩]
  | l :: rest =>
    match l.token with
    | .semicolon =>
      if lexemes.isEmpty then collect [] comments rest
      else ⟨lexemes.reverse, comments.reverse⟩ :: collect [] [] rest
    | .comment =>
      if lexemes.isEmpty then collect [] (l :: comments) rest
      else collect lexemes comments rest
    | _ => collect (l :: lexemes) comments rest

/-- The statements of a script. -/
def ofLexemes (lexemes : List Lexeme) : List Statement :=
  collect [] [] lexemes

/-- The line of the first lexeme. -/
def line (s : Statement) : Nat :=
  (s.lexemes.head?.map Lexeme.line).getD 1

/-- The start of the source text, as it is shown for a statement that was left out. -/
def snippet (s : Statement) : String :=
  String.ofList (s.lexemes.text.toList.take 60)

end Statement

/-- What follows a beginning of a text. -/
def afterStart? (start : String) (cs : List Char) : Option (List Char) :=
  if start.toList.isPrefixOf cs then some (cs.drop start.length) else none

/-- The text before and after the first place of a character. -/
def splitAtChar? (c : Char) (cs : List Char) : Option (List Char × List Char) :=
  match cs.dropWhile (· != c) with
  | _ :: rest => some (cs.takeWhile (· != c), rest)
  | [] => none

/-- The position noted in a comment `-- Position: (x, y)`. -/
def notedPosition? (comment : String) : Option Position := do
  let body := Text.trim (comment.toList.dropWhile (· == '-'))
  let coordinates ← afterStart? "Position:" body
  let coordinates ← afterStart? "(" (Text.trim coordinates)
  let (coordinates, _) ← splitAtChar? ')' coordinates
  let (x, y) ← splitAtChar? ',' coordinates
  return ⟨← FloatText.parse? (Text.trim x), ← FloatText.parse? (Text.trim y)⟩

/-- The position noted last in the comments before the statement. -/
def Statement.position? (s : Statement) : Option Position :=
  s.comments.reverse.findSome? fun comment => notedPosition? comment.text

end Ddl

end EntityRelation
