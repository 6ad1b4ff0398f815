import EntityRelation.Syntax.Column
import EntityRelation.Syntax.Query

/-!
# Tables

The definition of a table is a name, the columns and constraints between parentheses, and options.
-/

namespace EntityRelation

namespace Syntax

/-! ## Indexes -/

/-- Read a column of an index, which may be any expression. -/
def indexColumn (d : Dialect) (c : List Lexeme) : Reading := do
  let rest ← expression d c
  let rest :=
    if startsWithOneOf ["ASC", "DESC", "NULLS", "WITH"] rest then rest
    else (identifier rest).toOption.getD rest
  let rest := skipOneOf ["ASC", "DESC"] rest
  return (afterFirst? [["NULLS", "FIRST"], ["NULLS", "LAST"]] rest).getD rest

/-- Read the columns of an index. -/
def indexColumns (d : Dialect) : List Lexeme → Reading :=
  columnGroup (indexColumn d)

/-- Read the kind of an index, if it is given. -/
def optionalIndexType (c : List Lexeme) : Reading :=
  if startsWith "USING" c then identifier (c.drop 1) else .ok c

/-- Read the options of an index. -/
def indexOptions (d : Dialect) : List Lexeme → Reading :=
  repeated fun c =>
    if startsWith "USING" c then some (identifier (c.drop 1))
    else if startsWith "COMMENT" c then some (literalString d (c.drop 1))
    else none

/-- The lexemes after a name, if they start with one. -/
def skipName (c : List Lexeme) : List Lexeme :=
  (identifier c).toOption.getD c

/-! ## Constraints -/

/-- Read the columns of a key, in front of which its name may stand. -/
def keyColumns (d : Dialect) (c : List Lexeme) : Reading := do
  let rest ← indexColumns d (← optionalIndexType (skipName c))
  indexOptions d rest

/-- Read a unique key behind its first word. -/
def uniqueKey (d : Dialect) (c : List Lexeme) : Reading := do
  let rest := skipOneOf ["KEY", "INDEX"] c
  if d ≠ .mySql && startsWithOneOf ["KEY", "INDEX"] c then unexpected .indexName rest
  else
    let rest ←
      if startsWith "NULLS" rest then keyword "DISTINCT" (skip ["NOT"] (rest.drop 1)) else pure rest
    characteristics (← keyColumns d rest)

/-- Read a foreign key behind its first word. -/
def foreignKey (d : Dialect) (c : List Lexeme) : Reading := do
  let rest ← columnGroup identifier (skipName (← keyword "KEY" c))
  references d (← keyword "REFERENCES" rest)

/-- Read an index in the body of a table behind its first word. -/
def inlineIndex (d : Dialect) (c : List Lexeme) : Reading := do
  let name := if startsWith "USING" c then c else skipName c
  indexOptions d (← indexColumns d (← optionalIndexType name))

/-- Read an index of words or places behind its first word. -/
def specialIndex (d : Dialect) (c : List Lexeme) : Reading :=
  indexColumns d (skipName (skipOneOf ["KEY", "INDEX"] c))

/-- The constraints behind their names: by their first word, how they are read. -/
def constraintKinds (d : Dialect) : List Part :=
  [part ["UNIQUE"] (uniqueKey d),
    part ["PRIMARY"] fun c => do characteristics (← keyColumns d (← keyword "KEY" c)),
    part ["FOREIGN"] (foreignKey d), part ["CHECK"] (check d)]

/-- The constraints that have no name in front. -/
def unnamedKinds (d : Dialect) : List Part :=
  if d = .mySql then
    [part ["INDEX"] (inlineIndex d), part ["KEY"] (inlineIndex d),
      part ["FULLTEXT"] (specialIndex d), part ["SPATIAL"] (specialIndex d)]
  else []

/-- Read a constraint, if there is one. MySQL lets the name out even behind its keyword. -/
def constraint? (d : Dialect) : Part := fun c =>
  if startsWith "CONSTRAINT" c then
    let c := c.drop 1
    if d = .mySql && startsWithOneOf ["CHECK", "PRIMARY", "UNIQUE", "FOREIGN"] c then
      (constraintKinds d).findSome? (· c)
    else
      some do
        let rest ← identifier c
        ((constraintKinds d).findSome? (· rest)).getD (unexpected .constraintKind rest)
  else (constraintKinds d ++ unnamedKinds d).findSome? (· c)

/-! ## The body -/

/-- Read an entry in the body of a table: a constraint or a column. -/
def entry (d : Dialect) (c : List Lexeme) : Reading :=
  match constraint? d c with
  | some reading => reading
  | none =>
    if c.head?.any (·.token.isWord) then column d c else unexpected .columnOrConstraint c

/-- Read entries through the closing parenthesis; `bound` has at least as many lexemes as there
are. -/
def entriesWithin (d : Dialect) (bound c : List Lexeme) : Reading :=
  match bound with
  | [] => unexpected .columnOrConstraint c
  | _ :: bound => do
    let rest ← entry d c
    if startsSymbol "," rest then entriesWithin d bound (rest.drop 1)
    else if startsSymbol ")" rest then return rest.drop 1
    else unexpected .separator rest

/-- Read the body of a table, if there is one. It may be empty. -/
def body (d : Dialect) (c : List Lexeme) : Reading :=
  if startsSymbol "(" c then
    let c := c.drop 1
    if startsSymbol ")" c then .ok (c.drop 1) else entriesWithin d c c
  else .ok c

/-! ## Options -/

/-- Read a setting: a name and an expression. -/
def setting (d : Dialect) (c : List Lexeme) : Reading :=
  if d = .sqlServer && startsWith "HEAP" c then .ok (c.drop 1)
  else if d = .sqlServer && startsWithOneOf ["PARTITION", "CLUSTERED"] c then
    .ok (passOver 0 c)
  else do expression d (← symbol "=" (← identifier c))

/-- Read settings between parentheses, which may be none. -/
def settings (d : Dialect) (c : List Lexeme) : Reading := do
  let rest ← symbol "(" c
  if startsSymbol ")" rest then return rest.drop 1
  else symbol ")" (← separated (setting d) rest)

/-- The options that are a keyword and a value. -/
def valueOptions : List (List String) :=
  [["DEFAULT", "CHARSET"], ["CHARSET"], ["DEFAULT", "CHARACTER", "SET"], ["CHARACTER", "SET"],
    ["DEFAULT", "COLLATE"], ["COLLATE"], ["DATA", "DIRECTORY"], ["INDEX", "DIRECTORY"],
    ["KEY_BLOCK_SIZE"], ["ROW_FORMAT"], ["PACK_KEYS"], ["STATS_AUTO_RECALC"],
    ["STATS_PERSISTENT"], ["STATS_SAMPLE_PAGES"], ["DELAY_KEY_WRITE"], ["COMPRESSION"],
    ["ENCRYPTION"], ["MAX_ROWS"], ["MIN_ROWS"], ["AUTOEXTEND_SIZE"], ["AVG_ROW_LENGTH"],
    ["CHECKSUM"], ["CONNECTION"], ["ENGINE_ATTRIBUTE"], ["PASSWORD"],
    ["SECONDARY_ENGINE_ATTRIBUTE"], ["INSERT_METHOD"], ["AUTO_INCREMENT"]]

/-- Read the comment on a table. -/
def tableComment : List Lexeme → Reading
  | [] => unexpected .stringToken []
  | l :: rest =>
    match l.token with
    | .literal .single _ => .ok rest
    | t => .error (.unplaced .stringToken t)

/-- Read the engine of a table. -/
def engine : List Lexeme → Reading
  | [] => unexpected .wordToken []
  | l :: rest =>
    if l.token.isWord then optionalGroup identifier rest else unexpected .wordToken (l :: rest)

/-- Read the medium of a table space. -/
def storage : List Lexeme → Reading
  | [] => unexpected .wordToken []
  | l :: rest =>
    match l.token with
    | .word name _ =>
      if ["DISK", "MEMORY"].contains (String.ofList (Text.toUpper name.toList)) then .ok rest
      else unexpected .storage (l :: rest)
    | _ => unexpected .wordToken (l :: rest)

/-- Read the space of a table. -/
def tableSpace : List Lexeme → Reading
  | [] => unexpected .wordToken []
  | l :: rest =>
    match l.token with
    | .word _ _ | .literal .single _ =>
      if startsWith "STORAGE" rest then storage (skipSymbol "=" (rest.drop 1)) else .ok rest
    | _ => unexpected .wordToken (l :: rest)

/-- Read the tables of a union. -/
def unionTables (c : List Lexeme) : Reading :=
  if startsSymbol "(" c then
    let c := c.drop 1
    if startsSymbol ")" c then .ok (c.drop 1) else do symbol ")" (← separated identifier c)
  else unexpected .groupToken c

/-- Read the value of an option: a value, or a name. -/
def optionValue (d : Dialect) (c : List Lexeme) : Reading :=
  match value d c with
  | .ok rest => .ok rest
  | .error _ => identifier c

/-- Read an option of a table, if there is one. An equals sign may stand in front of its value. -/
def option? (d : Dialect) : Part := fun c =>
  if let some rest := after? ["START", "TRANSACTION"] c then some (.ok rest)
  else if let some rest := after? ["COMMENT"] c then some (tableComment (skipSymbol "=" rest))
  else if let some rest := after? ["ENGINE"] c then some (engine (skipSymbol "=" rest))
  else if let some rest := after? ["TABLESPACE"] c then some (tableSpace (skipSymbol "=" rest))
  else if let some rest := after? ["UNION"] c then some (unionTables (skipSymbol "=" rest))
  else (afterFirst? valueOptions c).map fun rest => optionValue d (skipSymbol "=" rest)

/-- Read options, with commas between them or without. -/
def options (d : Dialect) : List Lexeme → Reading :=
  repeated fun c => (option? d c).map fun reading => reading.map (skipSymbol ",")

/-- Read what happens to a temporary table at the end of a transaction. -/
def commitAction (c : List Lexeme) : Reading :=
  match afterFirst? [["DELETE", "ROWS"], ["PRESERVE", "ROWS"], ["DROP"]] c with
  | some rest => .ok rest
  | none => refused .commitAction c

/-- Read what orders a table. -/
def ordering (d : Dialect) (c : List Lexeme) : Reading :=
  if startsSymbol "(" c then
    if startsSymbol ")" (c.drop 1) then .ok (c.drop 2) else group (expression d) c
  else expression d c

/-- The words behind which a table is stored in some way of its own. -/
def storageWords : List String :=
  ["CLUSTERED", "LOCATION", "PARTITIONED", "ROW", "STORED", "TBLPROPERTIES"]

/-- Read the settings or the options of a table. -/
def configuration (d : Dialect) (c : List Lexeme) : Reading := do
  let rest ← if startsWith "INHERITS" c then columnGroup qualified (c.drop 1) else pure c
  let hasSettings := startsWith "WITH" rest && !startsSymbol ")" (rest.drop 2)
  let rest ← if startsWith "WITH" rest then settings d (rest.drop 1) else pure rest
  let rest ←
    match after? ["PARTITION", "BY"] rest with
    | some more => if d = .postgreSql then expression d more else pure rest
    | none => pure rest
  if hasSettings then return rest else options d rest

/-- Read the definition of a table behind the keywords. -/
def table (d : Dialect) (c : List Lexeme) : Reading := do
  let rest ← objectName d (skip ["IF", "NOT", "EXISTS"] c)
  let rest ← ((after? ["ON", "CLUSTER"] rest).map identifier).getD (.ok rest)
  let rest ←
    if startsWithOneOf ["LIKE", "ILIKE"] rest then objectName d (rest.drop 1) else pure rest
  let rest :=
    if startsWith "CLONE" rest then
      let source := rest.drop 1
      (objectName d source).toOption.getD source
    else rest
  let rest ← body d rest
  let rest := skip ["WITHOUT", "ROWID"] rest
  if startsWithOneOf storageWords rest then return passOver 0 rest
  else
    let rest ← configuration d rest
    let rest ← ((after? ["ORDER", "BY"] rest).map (ordering d)).getD (.ok rest)
    let rest ← ((after? ["ON", "COMMIT"] rest).map commitAction).getD (.ok rest)
    let rest := skip ["STRICT"] rest
    if startsWith "AS" rest then query d (rest.drop 1)
    else if d = .mySql && startsWith "SELECT" rest then query d rest
    else return rest

end Syntax

end EntityRelation
