import EntityRelation.Syntax.Value

/-!
# Data types

A data type starts with a word. The words of the known types say what may follow: a length, a
precision with or without a scale, a time zone, a list of texts. Any other name is a type of the
user's own, which may have a group of modifiers.
-/

namespace EntityRelation

namespace Syntax

/-- What a data type is to an expression that starts with it. -/
inductive TypeSort where
  | known
  | binary
  | interval
  | custom
  deriving DecidableEq, Repr

/-- What may follow the word of a known type. -/
inductive TypeForm where
  | bare
  /-- A precision, as in `DATETIME(6)`. -/
  | precision
  /-- A precision, and whether there are negative numbers. -/
  | integer
  /-- A precision and a scale. -/
  | decimal (mayBeUnsigned : Bool)
  /-- A number of characters, or `MAX`. -/
  | length
  /-- A word of more or less, then a number of characters. -/
  | character
  | bit
  | double
  | time
  | interval
  | enumeration
  | set
  | array
  | table
  | whole
  deriving DecidableEq, Repr

/-- The words of the known types. -/
def typeForms : List (TypeForm × List String) :=
  [(.bare,
      ["BOOLEAN", "BOOL", "FLOAT4", "FLOAT8", "FLOAT32", "FLOAT64", "INT16", "INT32", "INT64",
        "INT128", "INT256", "UINT8", "UINT16", "UINT32", "UINT64", "UINT128", "UINT256", "HUGEINT",
        "UHUGEINT", "UBIGINT", "USMALLINT", "UTINYINT", "TINYBLOB", "MEDIUMBLOB", "LONGBLOB",
        "UUID", "DATE", "DATE32", "JSON", "JSONB", "REGCLASS", "TEXT", "TINYTEXT", "MEDIUMTEXT",
        "LONGTEXT", "BYTEA", "TRIGGER"]),
    (.precision,
      ["CLOB", "BINARY", "BLOB", "BYTES", "VARBIT", "DATETIME", "TIMESTAMPTZ", "TIMETZ",
        "TIMESTAMP_NTZ", "STRING"]),
    (.integer,
      ["TINYINT", "INT2", "SMALLINT", "MEDIUMINT", "INT", "INT4", "INTEGER", "BIGINT", "INT8"]),
    (.decimal true, ["FLOAT", "DECIMAL", "DEC"]),
    (.decimal false, ["NUMERIC", "BIGNUMERIC", "BIGDECIMAL"]),
    (.length, ["VARCHAR", "NVARCHAR", "VARBINARY"]), (.character, ["CHARACTER", "CHAR"]),
    (.bit, ["BIT"]), (.double, ["DOUBLE"]), (.time, ["TIMESTAMP", "TIME"]),
    (.interval, ["INTERVAL"]), (.enumeration, ["ENUM", "ENUM8", "ENUM16"]), (.set, ["SET"]),
    (.array, ["ARRAY"]), (.table, ["TABLE"]), (.whole, ["SIGNED", "UNSIGNED"])]

/-- The geometric and textual types of PostgreSQL. -/
def postgreSqlTypes : List String :=
  ["POINT", "LINE", "LSEG", "BOX", "PATH", "POLYGON", "CIRCLE", "TSVECTOR", "TSQUERY"]

/-- What may follow the word of a type, if the type is known. -/
def typeForm? (d : Dialect) (word : String) : Option TypeForm :=
  if d = .postgreSql && postgreSqlTypes.contains word then some .bare
  else (typeForms.find? (·.2.contains word)).map (·.1)

/-- Read a precision between parentheses, if there is one. -/
def optionalPrecision (c : List Lexeme) : Reading :=
  if startsSymbol "(" c then do
    symbol ")" (← integer .integer .unsigned (c.drop 1))
  else .ok c

/-- Read a precision and perhaps a scale between parentheses, if there are any. -/
def optionalScale (c : List Lexeme) : Reading :=
  if startsSymbol "(" c then do
    let rest ← integer .integer .unsigned (c.drop 1)
    if startsSymbol "," rest then
      symbol ")" (← integer .number .signed (skipOneSymbol ["-", "+"] (rest.drop 1)))
    else symbol ")" rest
  else .ok c

/-- Read a length between parentheses, if there is one. -/
def optionalLength (c : List Lexeme) : Reading :=
  if startsSymbol "(" c then
    let c := c.drop 1
    if startsWith "MAX" c then symbol ")" (c.drop 1)
    else do
      symbol ")" (skipOneOf ["CHARACTERS", "OCTETS"] (← integer .integer .unsigned c))
  else .ok c

/-- Read a time zone, if there is one. -/
def optionalZone (c : List Lexeme) : Reading :=
  if startsWithOneOf ["WITH", "WITHOUT"] c then keywords ["TIME", "ZONE"] (c.drop 1) else .ok c

/-- Read a member of an enumeration, which may have a number. -/
def enumMember (d : Dialect) (c : List Lexeme) : Reading := do
  let rest ← literalString d c
  if startsSymbol "=" rest then signedNumber d (rest.drop 1) else return rest

/-- Read the texts of a set behind the opening parenthesis. -/
def setMembers : List Lexeme → Reading
  | [] => unexpected .listedString []
  | l :: rest =>
    match l.token with
    | .literal .single _ =>
      match rest with
      | [] => unexpected .listMark []
      | m :: more =>
        if m.isSymbol "," then setMembers more
        else if m.isSymbol ")" then .ok more
        else unexpected .listMark (m :: more)
    | _ => unexpected .listedString (l :: rest)

/-- Read the modifiers of a type behind the opening parenthesis. -/
def typeModifiers : List Lexeme → Reading
  | [] => unexpected .typeModifiers []
  | l :: rest =>
    match l.token with
    | .word _ _ | .number _ _ | .literal .single _ => typeModifiers rest
    | _ =>
      if l.isSymbol "," then typeModifiers rest
      else if l.isSymbol ")" then .ok rest
      else unexpected .typeModifiers (l :: rest)

/-- The units of time that an interval may be counted in. -/
def intervalUnits : List String :=
  ["YEAR", "MONTH", "DAY", "HOUR", "MINUTE", "SECOND"]

/-- Read what follows the word of a known type, save what an array has elements of. -/
def typeRest (d : Dialect) (c : List Lexeme) : TypeForm → Reading
  | .bare | .array => .ok c
  | .precision => optionalPrecision c
  | .integer => do
    let rest ← optionalPrecision c
    if startsWith "UNSIGNED" rest then return rest.drop 1
    else if d = .mySql then return skip ["SIGNED"] rest
    else return rest
  | .decimal mayBeUnsigned => do
    let rest ← optionalScale c
    return if mayBeUnsigned then skip ["UNSIGNED"] rest else rest
  | .length => optionalLength c
  | .character =>
    if startsWith "VARYING" c then optionalLength (c.drop 1)
    else
      match after? ["LARGE", "OBJECT"] c with
      | some rest => optionalPrecision rest
      | none => optionalLength c
  | .bit => optionalPrecision (skip ["VARYING"] c)
  | .double =>
    if startsWith "PRECISION" c then .ok (skip ["UNSIGNED"] (c.drop 1))
    else do return skip ["UNSIGNED"] (← optionalScale c)
  | .time => do optionalZone (← optionalPrecision c)
  | .interval =>
    if d = .postgreSql then
      let rest := skipOneOf intervalUnits c
      let rest := if startsWith "TO" rest then skipOneOf intervalUnits (rest.drop 1) else rest
      optionalPrecision rest
    else .ok c
  | .enumeration => group (enumMember d) c
  | .set => do setMembers (← symbol "(" c)
  | .table => if startsSymbol "(" c then anyGroup c else .ok c
  | .whole => .ok (skip ["INTEGER"] c)

/-- The part that makes an array of a type: brackets, with a length or without. -/
def arrayBrackets? : Part := fun c =>
  if startsSymbol "[" c then
    let rest := c.drop 1
    some (symbol "]" ((integer .integer .unsigned rest).toOption.getD rest))
  else none

/-- Read a data type, and say of what sort it is; `bound` has at least as many lexemes as there
are. -/
def dataTypeWithin (d : Dialect) (bound c : List Lexeme) :
    Except SyntaxError (TypeSort × List Lexeme) :=
  match bound, c with
  | _ :: bound, l :: rest => do
    let (sort, rest) ←
      match l.token with
      | .word _ _ =>
        match l.token.keyword?.bind (typeForm? d) with
        | some .array => do
          let (_, rest) ← dataTypeWithin d bound (← symbol "<" rest)
          pure (TypeSort.known, ← symbol ">" rest)
        | some form => do
          let sort : TypeSort :=
            if form = .interval then .interval
            else if l.isKeyword "BINARY" then .binary
            else .known
          pure (sort, ← typeRest d rest form)
        | none => do
          let rest ← objectName d (l :: rest)
          let rest ← if startsSymbol "(" rest then typeModifiers (rest.drop 1) else pure rest
          pure (TypeSort.custom, rest)
      | _ => unexpected .dataType (l :: rest)
    if d = .postgreSql then return (sort, ← repeated arrayBrackets? rest)
    else return (sort, rest)
  | _, c => unexpected .dataType c

/-- Read a data type, and say of what sort it is. -/
def sortedDataType (d : Dialect) (c : List Lexeme) : Except SyntaxError (TypeSort × List Lexeme) :=
  dataTypeWithin d c c

/-- Read a data type. -/
def dataType (d : Dialect) (c : List Lexeme) : Reading :=
  (sortedDataType d c).map Prod.snd

end Syntax

end EntityRelation
