import EntityRelation.Syntax.Expression

/-!
# Queries

Of a selection the check reads what is selected, since a keyword may be taken for the name of a
column there, and a missing semicolon shows behind it. What a clause or another form of query holds
is passed over up to the end of the statement.
-/

namespace EntityRelation

namespace Syntax

/-- The words that cannot name a selected column without `AS`. -/
def reservedAliases (d : Dialect) : List String :=
  ["ANALYZE", "CLUSTER", "DISTRIBUTE", "END", "EXCEPT", "EXPLAIN", "FETCH", "FROM", "GROUP",
      "HAVING", "INTERSECT", "INTO", "LATERAL", "LIMIT", "MINUS", "OFFSET", "ORDER", "RETURNING",
      "SELECT", "SORT", "TOP", "UNION", "VALUES", "VIEW", "WHERE", "WITH"] ++
    if d = .sqlServer then ["ELSE", "IF"] else []

/-- The words that start a clause of a query. -/
def clauseWords : List String :=
  ["CLUSTER", "DISTRIBUTE", "EXCEPT", "FETCH", "FOR", "FROM", "GROUP", "HAVING", "INTERSECT",
    "INTO", "LATERAL", "LIMIT", "MINUS", "OFFSET", "ORDER", "SORT", "UNION", "WHERE", "WINDOW"]

/-- The words that start a query. -/
def queryWords : List String :=
  ["FROM", "SELECT", "VALUES", "WITH"]

/-- Read the name of a selected column, if it has one. -/
def optionalAlias (d : Dialect) (c : List Lexeme) : Reading :=
  let name := skip ["AS"] c
  if startsWith "AS" c then
    match name with
    | l :: rest => if l.token.isName then .ok rest else unexpected .aliasName name
    | [] => unexpected .aliasName []
  else
    match c with
    | l :: rest => if l.token.isName && !l.isOneOf (reservedAliases d) then .ok rest else .ok c
    | [] => .ok []

/-- What follows the columns of a table that are all selected, if the lexemes start with them: a
star behind names and points. -/
def starred? : List Lexeme → Except SyntaxError (Option (List Lexeme))
  | ⟨.symbol "*", _⟩ :: rest => .ok (some rest)
  | l :: ⟨.symbol ".", _⟩ :: rest =>
    match l.token, rest with
    | .word _ _, m :: _ | .literal .single _, m :: _ =>
      if m.token.isWord || m.isSymbol "*" ||
          m.token matches .literal .single _ | .placeholder _ then
        starred? rest
      else unexpected .nameOrStar rest
    | .word _ _, [] | .literal .single _, [] => unexpected .nameOrStar []
    | _, _ => .ok none
  | _ => .ok none

/-- Read what is selected. -/
def selected (d : Dialect) (c : List Lexeme) : Reading := do
  match ← starred? c with
  | some rest => return rest
  | none =>
    let rest ← queryExpression d c
    match c with
    | l :: _ =>
      if l.isKeyword "FROM" && rest.length + 1 = c.length then
        refused (.missingExpression l.token.shown) rest
      else optionalAlias d rest
    | [] => optionalAlias d rest

/-- Read a limit at the start of a selection. -/
def topLimit (d : Dialect) (c : List Lexeme) : Reading := do
  let rest ←
    if startsSymbol "(" c then do symbol ")" (← queryExpression d (c.drop 1))
    else integer .integer .unsigned c
  return skip ["WITH", "TIES"] (skip ["PERCENT"] rest)

/-- Read a selection behind its first word. -/
def selection (d : Dialect) (c : List Lexeme) : Reading := do
  let rest := skip ["ALL"] c
  if startsWith "ALL" c && startsWith "DISTINCT" rest then refused .bothAllAndDistinct c
  else
    let rest ←
      match after? ["DISTINCT", "ON"] rest with
      | some rest => anyGroup rest
      | none => pure (skip ["DISTINCT"] rest)
    let rest ← if startsWith "TOP" rest then topLimit d (rest.drop 1) else pure rest
    if d = .postgreSql && startsWith "FROM" rest then return passOver 0 rest
    else
      let rest ← separated (selected d) rest
      return if startsWithOneOf clauseWords rest then passOver 0 rest else rest

/-- Read a query. -/
def query (d : Dialect) (c : List Lexeme) : Reading :=
  if startsWith "SELECT" c then selection d (c.drop 1)
  else if startsWithOneOf ["VALUES", "WITH"] c || startsSymbol "(" c then .ok (passOver 0 c)
  else unexpected .query c

end Syntax

end EntityRelation
