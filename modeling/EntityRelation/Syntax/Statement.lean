import EntityRelation.Syntax.Table

/-!
# Statements

A script is statements with semicolons between them. Definitions of tables and indexes, selections
and removals are read; other statements are known by their first words and passed over.
-/

namespace EntityRelation

namespace Syntax

/-! ## Creations -/

/-- Read the definition of an index behind the keywords. Its name may be missing. -/
def index (d : Dialect) (c : List Lexeme) : Reading := do
  let rest := skip ["CONCURRENTLY"] c
  let mayLackName := (after? ["IF", "NOT", "EXISTS"] rest).isNone
  let rest := skip ["IF", "NOT", "EXISTS"] rest
  let rest ←
    if mayLackName && startsWith "ON" rest then pure (rest.drop 1)
    else do keyword "ON" (← optionalIndexType (← objectName d rest))
  let rest ← indexColumns d (← optionalIndexType (← objectName d rest))
  let rest ← if startsWith "INCLUDE" rest then group identifier (rest.drop 1) else pure rest
  let rest ←
    if startsWith "NULLS" rest then keyword "DISTINCT" (skip ["NOT"] (rest.drop 1)) else pure rest
  let rest ←
    if d = .postgreSql && startsWith "WITH" rest then group (expression d) (rest.drop 1)
    else pure rest
  let rest ← if startsWith "WHERE" rest then expression d (rest.drop 1) else pure rest
  let rest ← indexOptions d rest
  return if startsWithOneOf ["ALGORITHM", "LOCK"] rest then passOver 0 rest else rest

/-- What can be created in place of what is there, besides tables. -/
def replaceableObjects : List (List String) :=
  [["MATERIALIZED"], ["VIEW"], ["SECURE", "VIEW"], ["SECURE", "MATERIALIZED", "VIEW"],
    ["ALGORITHM"], ["DEFINER"], ["SQL", "SECURITY"], ["POLICY"], ["FUNCTION"], ["DOMAIN"],
    ["TRIGGER"], ["CONSTRAINT", "TRIGGER"], ["MACRO"], ["SECRET"], ["USER"]]

/-- What else can be created. -/
def otherObjects : List (List String) :=
  [["EXTENSION"], ["VIRTUAL"], ["SCHEMA"], ["DATABASE"], ["ROLE"], ["SEQUENCE"], ["TYPE"],
    ["PROCEDURE"], ["CONNECTOR"], ["OPERATOR"], ["SERVER"]]

/-- The words between `CREATE` and what is created left out. -/
def skipScope (c : List Lexeme) : List Lexeme :=
  skipOneOf ["TEMP", "TEMPORARY"] (skip ["TRANSIENT"] (skip ["GLOBAL"] (skip ["LOCAL"] c)))

/-- Read a creation behind its first word, and say whether it defines a table. -/
def creation (d : Dialect) (c : List Lexeme) : Except SyntaxError (Bool × List Lexeme) :=
  let isReplacement := (after? ["OR", "REPLACE"] c).isSome
  let rest := skipScope (skip ["OR", "ALTER"] (skip ["OR", "REPLACE"] c))
  let passed := passOver 0 rest
  if startsWith "TABLE" rest then (table d (rest.drop 1)).map (true, ·)
  else if startsWith "EXTERNAL" rest then
    (keyword "TABLE" (rest.drop 1)).map fun _ => (true, passed)
  else if (afterFirst? replaceableObjects rest).isSome then .ok (false, passed)
  else if isReplacement then unexpected .replaceable rest
  else
    match afterFirst? [["INDEX"], ["UNIQUE", "INDEX"]] rest with
    | some rest => (index d rest).map (false, ·)
    | none =>
      if (afterFirst? otherObjects rest).isSome then .ok (false, passed)
      else unexpected .objectType rest

/-! ## Removals -/

/-- What is removed by name. -/
def namedObjects : List (List String) :=
  [["TABLE"], ["VIEW"], ["MATERIALIZED", "VIEW"], ["INDEX"], ["ROLE"], ["SCHEMA"], ["DATABASE"],
    ["SEQUENCE"], ["STAGE"], ["TYPE"], ["USER"], ["STREAM"]]

/-- What is removed in ways of its own. -/
def otherRemovals : List String :=
  ["CONNECTOR", "DOMAIN", "EXTENSION", "FUNCTION", "OPERATOR", "POLICY", "PROCEDURE", "SECRET",
    "TRIGGER"]

/-- Read the names of what is removed, and how it is removed. -/
def removed (d : Dialect) (isRole : Bool) (c : List Lexeme) : Reading := do
  let names ← separated (objectName d) (skip ["IF", "EXISTS"] c)
  let cascaded := skip ["CASCADE"] names
  let rest := skip ["PURGE"] (skip ["RESTRICT"] cascaded)
  if startsWith "CASCADE" names && startsWith "RESTRICT" cascaded then refused .contradiction names
  else if isRole && rest.length ≠ names.length then refused .roleRemoval names
  else if startsWith "ON" rest then objectName d (rest.drop 1)
  else return rest

/-- Read a removal behind its first word. -/
def removal (d : Dialect) (c : List Lexeme) : Reading :=
  let rest := if d = .mySql then skip ["TEMPORARY"] c else c
  match afterFirst? namedObjects rest with
  | some more => removed d (startsWith "ROLE" rest) more
  | none =>
    if startsWithOneOf otherRemovals rest then .ok (passOver 0 rest) else unexpected .droppable rest

/-! ## All statements -/

/-- The words that start a statement which is passed over. -/
def statementWords : List String :=
  ["ALTER", "ANALYZE", "ASSERT", "ATTACH", "BEGIN", "CACHE", "CALL", "CASE", "CLOSE", "COMMIT",
    "COPY", "DEALLOCATE", "DECLARE", "DELETE", "DENY", "DESC", "DESCRIBE", "DISCARD", "END", "EXEC",
    "EXECUTE", "EXPLAIN", "EXPORT", "FETCH", "FLUSH", "GRANT", "IF", "INSERT", "KILL", "LOAD",
    "MERGE", "MSCK", "OPEN", "PRAGMA", "PREPARE", "PRINT", "RAISE", "RAISERROR", "RELEASE",
    "RENAME", "RESET", "RETURN", "REVOKE", "ROLLBACK", "SAVEPOINT", "SET", "SHOW", "START",
    "TRUNCATE", "UNCACHE", "UNLOAD", "UPDATE", "USE", "VACUUM", "WHILE"]

/-- The words that start a statement of a single dialect. -/
def ownStatements : Dialect → List (List String)
  | .mySql => [["LOCK", "TABLES"], ["UNLOCK", "TABLES"], ["REPLACE"]]
  | .postgreSql => [["LISTEN"], ["UNLISTEN"], ["NOTIFY"], ["COMMENT"]]
  | .sqlite => [["REPLACE"]]
  | .sqlServer => []

/-- Read a statement, and say whether it defines a table. -/
def statement (d : Dialect) (c : List Lexeme) : Except SyntaxError (Bool × List Lexeme) :=
  if startsWith "CREATE" c then creation d (c.drop 1)
  else if startsWith "DROP" c then (removal d (c.drop 1)).map (false, ·)
  else if startsWithOneOf queryWords c || startsSymbol "(" c then (query d c).map (false, ·)
  else if startsWithOneOf statementWords c || (afterFirst? (ownStatements d) c).isSome then
    .ok (false, passOver 0 c)
  else if startsWith "REPLACE" c then refused .replacement (c.drop 1)
  else unexpected .statement c

/-- Read statements, and say which of them define tables; `bound` has at least as many lexemes as
there are. The word `END` behind a statement ends the script. -/
def statementsWithin (d : Dialect) (bound c : List Lexeme) : Except SyntaxError (List Bool) :=
  match bound, c.dropWhile (·.isSymbol ";") with
  | _ :: bound, l :: more => do
    let (isTable, rest) ← statement d (l :: more)
    if rest.isEmpty || startsWith "END" rest then return [isTable]
    else if startsSymbol ";" rest then return isTable :: (← statementsWithin d bound rest)
    else unexpected .endOfStatement rest
  | _, _ => .ok []

/-- Read statements, and say which of them define tables. -/
def statements (d : Dialect) (c : List Lexeme) : Except SyntaxError (List Bool) :=
  statementsWithin d c c

end Syntax

end EntityRelation
