import EntityRelation.Syntax.Reading

/-!
# Values

A value is a number, a literal, a placeholder, or one of the words for null and truth. In MySQL a
literal between quotes goes on with the literals right behind it.
-/

namespace EntityRelation

namespace Syntax

/-- Whether the lexeme is a plain string. -/
def Lexeme.isPlainString (l : Lexeme) : Bool :=
  match l.token with
  | .literal .single _ | .literal .double _ => true
  | _ => false

/-- Whether the words for truth are values. -/
def hasTruthValues : Dialect → Bool
  | .sqlServer => false
  | _ => true

/-- Read the name of a placeholder behind its mark. -/
def placeholderName : List Lexeme → Reading
  | [] => unexpected .placeholder []
  | l :: rest =>
    match l.token with
    | .word _ _ | .number _ false => .ok rest
    | _ => unexpected .placeholder (l :: rest)

/-- Read a word as a value. -/
def wordValue (d : Dialect) (l : Lexeme) (rest : List Lexeme) : Reading :=
  match l.token with
  | .word _ (some '"') => .ok rest
  | .word _ (some _) => unexpected .quotedValue (l :: rest)
  | _ =>
    if l.isKeyword "NULL" || (hasTruthValues d && l.isOneOf ["TRUE", "FALSE"]) then .ok rest
    else unexpected .concreteValue (l :: rest)

/-- Read a value. -/
def value (d : Dialect) : List Lexeme → Reading
  | [] => unexpected .value []
  | l :: rest =>
    match l.token with
    | .word _ _ => wordValue d l rest
    | .number _ _ | .placeholder _ => .ok rest
    | .literal _ _ =>
      if d = .mySql && l.isPlainString then .ok (rest.dropWhile Lexeme.isPlainString) else .ok rest
    | .symbol text =>
      if [":", "@"].contains text then placeholderName rest else unexpected .value (l :: rest)

/-- Read a number, which may have a sign. -/
def signedNumber (d : Dialect) (c : List Lexeme) : Reading :=
  let c := skipOneSymbol ["+", "-"] c
  match c with
  | ⟨.number _ _, _⟩ :: rest | ⟨.placeholder _, _⟩ :: rest => .ok rest
  | _ => do
    let _ ← value d c
    unexpected .literalNumber c

/-- Read a plain text. -/
def literalString (d : Dialect) : List Lexeme → Reading
  | [] => unexpected .literalString []
  | l :: rest =>
    match l.token with
    | .literal .single _ | .literal .double _ | .literal .unicode _ => .ok rest
    | .literal .escaped _ =>
      if d = .postgreSql then .ok rest else unexpected .literalString (l :: rest)
    | .word _ (some _) => .ok rest
    | _ => unexpected .literalString (l :: rest)

end Syntax

end EntityRelation
