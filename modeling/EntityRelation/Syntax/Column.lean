import EntityRelation.Syntax.Expression

/-!
# Columns

A column is a name, a type and modifiers. The modifiers are tried in the order of a list. A modifier
that only other dialects have is passed over without effect, and only those behind it in the list
may follow.
-/

namespace EntityRelation

namespace Syntax

/-! ## Parts of constraints -/

/-- Read what happens to references when what they refer to changes. -/
def referentialAction (c : List Lexeme) : Reading :=
  match afterFirst? [["RESTRICT"], ["CASCADE"], ["SET", "NULL"], ["NO", "ACTION"],
      ["SET", "DEFAULT"]] c with
  | some rest => .ok rest
  | none => unexpected .referentialAction c

/-- Read how references are matched. -/
def matchKind (c : List Lexeme) : Reading :=
  if startsWithOneOf ["FULL", "PARTIAL", "SIMPLE"] c then .ok (c.drop 1)
  else unexpected .matchKind c

/-- Read when a constraint is tested. -/
def deferral (c : List Lexeme) : Reading :=
  if startsWithOneOf ["DEFERRED", "IMMEDIATE"] c then .ok (c.drop 1) else unexpected .deferral c

/-- The part that says whether something holds; it may be negated. -/
def negatable (word : String) : Part := fun c =>
  (afterFirst? [["NOT", word], [word]] c).map .ok

/-- Read whether and when a constraint is tested. -/
def characteristics : List Lexeme → Reading :=
  eachOnce [negatable "DEFERRABLE", part ["INITIALLY"] deferral, negatable "ENFORCED"]

/-- Read what a foreign key refers to, behind its keyword. -/
def references (d : Dialect) (c : List Lexeme) : Reading := do
  let rest ← optionalGroup identifier (← objectName d c)
  let rest ←
    eachOnce
      [part ["MATCH"] matchKind, part ["ON", "DELETE"] referentialAction,
        part ["ON", "UPDATE"] referentialAction] rest
  characteristics rest

/-- Read an expression between parentheses. -/
def condition (d : Dialect) (c : List Lexeme) : Reading := do
  symbol ")" (← expression d (← symbol "(" c))

/-- Read a condition on rows, and whether it is enforced. -/
def check (d : Dialect) (c : List Lexeme) : Reading := do
  let rest ← condition d c
  return (afterFirst? [["ENFORCED"], ["NOT", "ENFORCED"]] rest).getD rest

/-! ## Modifiers -/

/-- A modifier of a column: the keywords it starts with, whether the dialect has it, and how it is
read behind them, with whether it is there after all. -/
structure Modifier where
  words : List String
  isKnown : Bool := true
  read : List Lexeme → Except SyntaxError (Bool × List Lexeme)

namespace Modifier

/-- A modifier that is there whenever its keywords are. -/
def plain (words : List String) (read : List Lexeme → Reading) (isKnown : Bool := true) :
    Modifier where
  words := words
  isKnown := isKnown
  read c := (read c).map (true, ·)

/-- Read a comment. -/
def commentText : List Lexeme → Reading
  | [] => unexpected .commentText []
  | l :: rest =>
    match l.token with
    | .literal .single _ | .literal (.dollar _) _ => .ok rest
    | _ => unexpected .commentText (l :: rest)

/-- Read the seed and the step of an identity, if they are there. -/
def identity (d : Dialect) (c : List Lexeme) : Reading :=
  if startsSymbol "(" c then do
    let rest ← symbol "," (← signedNumber d (c.drop 1))
    symbol ")" (← signedNumber d rest)
  else .ok c

/-- Read how a column is computed. -/
def computation (d : Dialect) (c : List Lexeme) : Reading := do
  let rest ← condition d c
  if startsWith "STORED" rest then return rest.drop 1
  else if d = .postgreSql then unexpected (.keyword "STORED") rest
  else return skip ["VIRTUAL"] rest

/-- Read the modifier of a computed column in short. -/
def shortComputation (d : Dialect) (c : List Lexeme) : Reading := do
  let rest ← symbol "(" c
  let rest ← symbol ")" (← columnExpression d rest)
  return skipOneOf ["STORED", "VIRTUAL"] rest

/-- Read how a column is generated. -/
def generation (d : Dialect) (c : List Lexeme) : Except SyntaxError (Bool × List Lexeme) :=
  match afterFirst? [["ALWAYS", "AS", "IDENTITY"], ["BY", "DEFAULT", "AS", "IDENTITY"]] c,
    after? ["ALWAYS", "AS"] c with
  | some rest, _ => do
    let rest ← if startsSymbol "(" rest then anyGroup rest else pure rest
    return (true, rest)
  | none, some rest =>
    if startsSymbol "(" rest then (computation d rest).map (true, ·) else .ok (false, rest)
  | none, none => .ok (false, c)

/-- The modifiers in the order in which they are tried. -/
def all (d : Dialect) : List Modifier :=
  [plain ["CHARACTER", "SET"] (objectName d), plain ["COLLATE"] (objectName d),
    plain ["NOT", "NULL"] .ok, plain ["COMMENT"] commentText, plain ["NULL"] .ok,
    plain ["DEFAULT"] (columnExpression d), plain ["PRIMARY", "KEY"] characteristics,
    plain ["UNIQUE"] characteristics, plain ["REFERENCES"] (references d),
    plain ["CHECK"] (check d), plain ["AUTO_INCREMENT"] .ok (d = .mySql),
    plain ["AUTOINCREMENT"] .ok (d = .sqlite), plain ["ASC"] .ok (d = .sqlite),
    plain ["DESC"] .ok (d = .sqlite), plain ["ON", "UPDATE"] (columnExpression d) (d = .mySql),
    { words := ["GENERATED"], read := generation d },
    plain ["AS"] (shortComputation d) (d = .mySql || d = .sqlite),
    plain ["SRID"] (columnExpression d) (d = .mySql),
    plain ["IDENTITY"] (identity d) (d = .sqlServer)] ++
  (if d = .sqlite then
    [plain ["ON", "CONFLICT"] (oneOf ["ROLLBACK", "ABORT", "FAIL", "IGNORE", "REPLACE"])]
  else []) ++
  [plain ["INVISIBLE"] .ok]

/-- Read the first modifier that the lexemes start with, and say whether there is one. -/
def readFirst : List Modifier → List Lexeme → Except SyntaxError (Bool × List Lexeme)
  | [], c => .ok (false, c)
  | m :: ms, c =>
    match after? m.words c with
    | some rest => if m.isKnown then m.read rest else readFirst ms rest
    | none => readFirst ms c

/-- Read modifiers; `bound` has at least as many lexemes as there are. Behind the name of a modifier
there has to be one. -/
def readWithin (d : Dialect) (bound c : List Lexeme) : Reading :=
  match bound with
  | [] => .ok c
  | _ :: bound => do
    let isNamed := startsWith "CONSTRAINT" c
    let rest ← if isNamed then identifier (c.drop 1) else pure c
    let (found, rest) ← readFirst (all d) rest
    if found then readWithin d bound rest
    else if isNamed then unexpected .constraintDetails rest
    else return rest

end Modifier

/-! ## Definitions -/

/-- Read the modifiers of a column. -/
def modifiers (d : Dialect) (c : List Lexeme) : Reading :=
  Modifier.readWithin d c c

/-- The words that may follow the name of a column without a type. -/
def untypedWords : List String :=
  ["AS", "CHECK", "COLLATE", "CONSTRAINT", "DEFAULT", "GENERATED", "NOT", "PRIMARY", "REFERENCES",
    "UNIQUE"]

/-- Read the type of a column, which SQLite does not need. -/
def columnType (d : Dialect) (c : List Lexeme) : Reading :=
  if d = .sqlite && (startsWithOneOf untypedWords c || !(c.head?.any (·.token.isWord))) then .ok c
  else dataType d c

/-- Read the definition of a column. -/
def column (d : Dialect) (c : List Lexeme) : Reading := do
  modifiers d (← columnType d (← identifier c))

end Syntax

end EntityRelation
