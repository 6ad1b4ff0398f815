import EntityRelation.Syntax.DataType
import EntityRelation.Syntax.Lexicon

/-!
# Expressions

An expression is an operand and the operations behind it. Operations have ranks: the operand on the
right of an operator takes the operations of higher rank with it. Expressions may be nested only so
deep, and reading them is a recursion on the depth that is left.

The definition of a column goes on behind the value of a default, so there `NOT NULL` and `COLLATE`
are not part of an expression, save in groups.
-/

namespace EntityRelation

namespace Syntax

/-- Where an expression stands. -/
structure Context where
  dialect : Dialect
  /-- Whether the rest of a column may follow. -/
  inColumn : Bool := false
  deriving DecidableEq, Repr

/-- The context in a group. -/
def Context.grouped (x : Context) : Context :=
  { x with inColumn := false }

/-- Reads an expression that ends in front of the first operation of at most some rank. -/
abbrev Subexpression := Context → Nat → List Lexeme → Reading

namespace Expression

/-! ## Operations -/

/-- What follows an operator. -/
inductive Tail where
  | operand
  | nothing
  | truthTest
  | type
  | members
  | bounds
  | pattern
  deriving DecidableEq, Repr

/-- An operator with its rank. -/
structure Operation where
  rank : Nat
  tail : Tail := .operand
  deriving DecidableEq, Repr

/-- The rank of a negation. -/
def negationRank : Nat := 15

/-- The rank of a membership and of comparisons. -/
def comparisonRank : Nat := 20

/-- The rank of a sum. -/
def sumRank : Nat := 30

/-- The rank of a product. -/
def productRank : Nat := 40

/-- The rank of a cast, above which there is no operation. -/
def castRank : Nat := 50

/-- The symbols of operators and their ranks. -/
def symbolRanks : List (Nat × List String) :=
  [(16, ["->", "->>", "#>", "#>>", "@>", "<@", "#-", "@?", "@@"]),
    (comparisonRank,
      ["=", "==", "<", "<=", "<>", ">", ">=", "<=>", "~", "~*", "!~", "!~*", "~~", "~~*", "!~~",
        "!~~*"]),
    (21, ["|"]), (22, ["^", "#", "<<", ">>"]), (23, ["&"]), (sumRank, ["+", "-"]),
    (productRank, ["*", "/", "%", "||"]), (castRank, ["&&", "^@"])]

/-- The symbols that stand in front of their operand. -/
def signs (d : Dialect) : List String :=
  match d with
  | .postgreSql => ["~", "!!", "|/", "||/", "@", "#", "@-@", "@@", "?-", "?|"]
  | _ => ["~"]

/-- The operation of a symbol. PostgreSQL has operators of any spelling. -/
def symbolOperation? (d : Dialect) (text : String) : Option Operation :=
  if text = "::" then some { rank := castRank, tail := .type }
  else
    match symbolRanks.find? (·.2.contains text) with
    | some (rank, _) => some { rank }
    | none =>
      if d = .postgreSql && text != "=>" && !(signs d).contains text && text.length ≠ 1 &&
          text.toList.all Lexicon.postgreSql.isOperatorPart then
        some { rank := 16 }
      else none

/-- The words of operations, the operations, and the dialects that have them. -/
def wordOperations : List (List String × Operation) :=
  [(["OR"], { rank := 5 }), (["AND"], { rank := 10 }), (["XOR"], { rank := 24 }),
    (["OVERLAPS"], { rank := comparisonRank }), (["AT", "TIME", "ZONE"], { rank := 41 }),
    (["IS"], { rank := 17, tail := .truthTest })]

/-- The operations that may be negated. -/
def negatableOperations : List (List String × Operation) :=
  [(["IN"], { rank := comparisonRank, tail := .members }),
    (["BETWEEN"], { rank := comparisonRank, tail := .bounds }),
    (["LIKE"], { rank := 19, tail := .pattern }), (["ILIKE"], { rank := 19, tail := .pattern }),
    (["SIMILAR", "TO"], { rank := 19, tail := .pattern }), (["RLIKE"], { rank := 19 }),
    (["REGEXP"], { rank := 19 })]

/-- The operations of single dialects. -/
def ownOperations : Dialect → List (List String × Operation)
  | .mySql => [(["DIV"], { rank := productRank })]
  | .postgreSql => [(["NOTNULL"], { rank := 17, tail := .nothing })]
  | .sqlite =>
    [(["NOTNULL"], { rank := 17, tail := .nothing }), (["MATCH"], { rank := 19 })]
  | .sqlServer => []

/-- The operations that start with words. -/
def operationsOfWords (x : Context) : List (List String × Operation) :=
  wordOperations ++ negatableOperations ++
    negatableOperations.map (fun (words, operation) => ("NOT" :: words, operation)) ++
    (if x.inColumn then [] else [(["NOT", "NULL"], { rank := 17, tail := .nothing })]) ++
    ownOperations x.dialect

/-- The operation that the lexemes start with, and what follows its operator. -/
def operation? (x : Context) : List Lexeme → Option (Operation × List Lexeme)
  | [] => none
  | l :: rest =>
    match l.token with
    | .symbol text => (symbolOperation? x.dialect text).map (·, rest)
    | .word _ none =>
      (operationsOfWords x).findSome? fun (words, operation) =>
        (after? words (l :: rest)).map (operation, ·)
    | _ => none

/-- The tests of truth that end with a word. -/
def truthTests : List (List String) :=
  [["NULL"], ["TRUE"], ["FALSE"], ["UNKNOWN"], ["NORMALIZED"], ["NFC", "NORMALIZED"],
    ["NFD", "NORMALIZED"], ["NFKC", "NORMALIZED"], ["NFKD", "NORMALIZED"]]

/-- Read what follows an operator of some rank. -/
def tail (x : Context) (sub : Subexpression) (rank : Nat) : Tail → List Lexeme → Reading
  | .operand, c =>
    if startsWithOneOf ["ANY", "ALL", "SOME"] c then anyGroup (c.drop 1) else sub x rank c
  | .nothing, c => .ok c
  | .truthTest, c =>
    let rest := skip ["NOT"] c
    match afterFirst? truthTests rest, after? ["DISTINCT", "FROM"] rest with
    | some rest, _ => .ok rest
    | none, some rest => sub x 0 rest
    | none, none => unexpected .truthTest rest
  | .type, c => dataType x.dialect c
  | .members, c => do
    let rest ← symbol "(" c
    if startsWithOneOf ["SELECT", "WITH"] rest then symbol ")" (passOver 0 rest)
    else if x.dialect = .sqlite && startsSymbol ")" rest then return rest.drop 1
    else symbol ")" (← separated (sub x 0) rest)
  | .bounds, c => do sub x rank (← keyword "AND" (← sub x rank c))
  | .pattern, c => do
    let rest ← sub x rank (skip ["ANY"] c)
    if startsWith "ESCAPE" rest then value x.dialect (rest.drop 1) else return rest

/-- Read the operations of higher rank that follow an operand. -/
def operations (x : Context) (sub : Subexpression) (rank : Nat) : List Lexeme → Reading :=
  repeated fun c =>
    match operation? x c with
    | some (operation, rest) =>
      if rank < operation.rank then some (tail x sub operation.rank operation.tail rest) else none
    | none => none

/-! ## Calls -/

/-- Read an argument of a call, which may have a name. -/
def argument (x : Context) (sub : Subexpression) (c : List Lexeme) : Reading :=
  match c with
  | ⟨.symbol "*", _⟩ :: rest => .ok rest
  | ⟨.word _ _, _⟩ :: ⟨.symbol "=>", _⟩ :: rest => sub x 0 rest
  | _ => sub x 0 c

/-- The words that start a clause behind the arguments of a call. -/
def argumentClauses : List String :=
  ["HAVING", "IGNORE", "LIMIT", "ON", "ORDER", "RESPECT", "SEPARATOR"]

/-- Read the arguments of a call behind the opening parenthesis. -/
def arguments (x : Context) (sub : Subexpression) (c : List Lexeme) : Reading :=
  if startsSymbol ")" c then .ok (c.drop 1)
  else if startsWithOneOf ["SELECT", "WITH"] c then symbol ")" (passOver 0 c)
  else do
    let rest ← separated (argument x sub) (skipOneOf ["ALL", "DISTINCT"] c)
    symbol ")" (if startsWithOneOf argumentClauses rest then passOver 0 rest else rest)

/-- Read the condition and the window of a call. -/
def callRest (c : List Lexeme) : Reading := do
  let rest ← if startsWith "FILTER" c then anyGroup (c.drop 1) else pure c
  if startsWith "OVER" rest then
    let rest := rest.drop 1
    if startsSymbol "(" rest then anyGroup rest else identifier rest
  else return rest

/-- Read what may follow a name: the arguments of a call, or a text that the name introduces. -/
def named (x : Context) (sub : Subexpression) (l : Lexeme) (rest : List Lexeme) : Reading :=
  if startsSymbol "(" rest then do callRest (← arguments x sub (rest.drop 1))
  else
    match l.token, rest with
    | .word name _, ⟨.literal kind _, _⟩ :: more =>
      if name.startsWith "_" && (kind = .single || kind = .double || kind = .hex) then .ok more
      else .ok rest
    | _, _ => .ok rest

/-! ## Operands that start with a keyword -/

/-- Read a branch of a distinction behind its first word. -/
def branch (x : Context) (sub : Subexpression) (c : List Lexeme) : Reading := do
  sub x 0 (← keyword "THEN" (← sub x 0 c))

/-- Read a distinction of cases behind its first word. -/
def cases (x : Context) (sub : Subexpression) (c : List Lexeme) : Reading := do
  let rest ← if startsWith "WHEN" c then pure c else sub x 0 c
  let rest ← branch x sub (← keyword "WHEN" rest)
  let rest ← repeated (part ["WHEN"] (branch x sub)) rest
  let rest ← if startsWith "ELSE" rest then sub x 0 (rest.drop 1) else pure rest
  keyword "END" rest

/-- Read what is cast, and to which type. -/
def cast (x : Context) (sub : Subexpression) (c : List Lexeme) : Reading := do
  let rest ← keyword "AS" (← sub x 0 (← symbol "(" c))
  symbol ")" (← dataType x.dialect rest)

/-- Read an existence test behind its first word. -/
def existence (c : List Lexeme) : Reading := do
  let rest ← symbol "(" c
  if startsWithOneOf ["SELECT", "WITH", "VALUES", "FROM"] rest || startsSymbol "(" rest then
    symbol ")" (passOver 0 rest)
  else unexpected .query rest

/-- The units that may follow the number of an interval. -/
def units : List String :=
  ["YEAR", "YEARS", "QUARTER", "MONTH", "MONTHS", "WEEK", "WEEKS", "DAY", "DAYS", "DATE", "HOUR",
    "HOURS", "MINUTE", "MINUTES", "SECOND", "SECONDS", "CENTURY", "DECADE", "DOW", "DOY", "EPOCH",
    "ISODOW", "ISOYEAR", "JULIAN", "MICROSECOND", "MICROSECONDS", "MILLENIUM", "MILLENNIUM",
    "MILLISECOND", "MILLISECONDS", "NANOSECOND", "NANOSECONDS", "TIMEZONE"]

/-- Read an interval behind its first word. MySQL counts in any expression, and asks for a unit. -/
def interval (x : Context) (sub : Subexpression) (c : List Lexeme) : Reading := do
  let rest ← sub x (if x.dialect = .mySql then 0 else castRank) c
  if startsWithOneOf units rest then
    let rest ← optionalScale (rest.drop 1)
    if startsWith "TO" rest then
      if startsWithOneOf units (rest.drop 1) then optionalPrecision (rest.drop 2)
      else unexpected .identifier (rest.drop 1)
    else return rest
  else if x.dialect = .mySql then refused .missingUnit rest
  else return rest

/-- Read an array behind the opening bracket. -/
def array (x : Context) (sub : Subexpression) (c : List Lexeme) : Reading := do
  if startsSymbol "]" c then return c.drop 1
  else symbol "]" (← separated (sub x 0) c)

/-- How an operand goes on behind a keyword it starts with; none for other words. -/
def keyworded? (x : Context) (sub : Subexpression) (word : String) (c : List Lexeme) :
    Option Reading :=
  match word with
  | "NULL" => some (.ok c)
  | "TRUE" | "FALSE" => if hasTruthValues x.dialect then some (.ok c) else none
  | "CURRENT_CATALOG" | "CURRENT_USER" | "SESSION_USER" | "USER" =>
    if x.dialect = .postgreSql then some (.ok c) else none
  | "CURRENT_TIMESTAMP" | "CURRENT_TIME" | "CURRENT_DATE" | "LOCALTIME" | "LOCALTIMESTAMP" =>
    some (if startsSymbol "(" c then arguments x sub (c.drop 1) else .ok c)
  | "CASE" => some (cases x sub c)
  | "CAST" | "TRY_CAST" | "SAFE_CAST" => some (cast x sub c)
  | "CEIL" | "CONVERT" | "EXTRACT" | "FLOOR" | "OVERLAY" | "SUBSTR" | "SUBSTRING" | "TRIM" =>
    some (anyGroup c)
  | "POSITION" => if startsSymbol "(" c then some (anyGroup c) else none
  | "EXISTS" => some (existence c)
  | "NOT" =>
    some (if startsWith "EXISTS" c then existence (c.drop 1) else sub x negationRank c)
  | "INTERVAL" => some (interval x sub c)
  | "ARRAY" =>
    if startsSymbol "[" c then some (array x sub (c.drop 1))
    else if startsSymbol "(" c then some (anyGroup c)
    else none
  | _ => none

/-- The keywords that cannot be names too. -/
def strictKeywords : List String :=
  ["EXISTS", "INTERVAL", "STRUCT", "TRIM"]

/-- Read an operand that starts with a word. A keyword that does not go on as it should is a name
where it can be. -/
def wordOperand (x : Context) (sub : Subexpression) (l : Lexeme) (rest : List Lexeme) : Reading :=
  match l.token.keyword?.bind (keyworded? x sub · rest) with
  | none => named x sub l rest
  | some (.ok rest) => .ok rest
  | some (.error e) =>
    if e = .tooDeep || l.isOneOf strictKeywords then .error e
    else
      match named x sub l rest with
      | .ok rest => .ok rest
      | .error _ => .error e

/-! ## Operands -/

/-- What is left when reading succeeds. That expressions are nested too deep stays a fault. -/
def attempt (r : Reading) : Except SyntaxError (Option (List Lexeme)) :=
  match r with
  | .ok rest => .ok (some rest)
  | .error .tooDeep => .error .tooDeep
  | .error _ => .ok none

/-- Read a text behind the name of its type, if this is what the lexemes start with. The name has to
be that of a known type. An interval whose type is a single word is left to the keyword. -/
def typedText? (x : Context) (sub : Subexpression) (c : List Lexeme) :
    Except SyntaxError (Option (List Lexeme)) :=
  match sortedDataType x.dialect c with
  | .ok (.known, rest) => attempt (value x.dialect rest)
  | .ok (.binary, rest) =>
    attempt (if x.dialect = .mySql then sub x 0 rest else value x.dialect rest)
  | .ok (.interval, rest) =>
    if rest.length + 1 = c.length then .ok none else attempt (interval x sub rest)
  | _ => .ok none

/-- Read a group or a query behind the opening parenthesis. -/
def grouped (x : Context) (sub : Subexpression) (c : List Lexeme) : Reading :=
  if startsWithOneOf ["SELECT", "WITH"] c then symbol ")" (passOver 0 c)
  else do symbol ")" (← separated (sub x.grouped 0) c)

/-- Read an operand. -/
def operand (x : Context) (sub : Subexpression) (c : List Lexeme) : Reading := do
  match ← typedText? x sub c, c with
  | some rest, _ => return rest
  | none, [] => unexpected .expression []
  | none, l :: rest =>
    match l.token with
    | .word _ _ => wordOperand x sub l rest
    | .number _ _ | .literal _ _ | .placeholder _ => value x.dialect c
    | .symbol text =>
      if text = "(" then grouped x sub rest
      else if text = "[" then array x sub rest
      else if ["+", "-"].contains text then sub x productRank rest
      else if (signs x.dialect).contains text then sub x sumRank rest
      else if [":", "@"].contains text then value x.dialect c
      else unexpected .expression c

/-- Read a member behind a point. -/
def member (x : Context) (sub : Subexpression) : List Lexeme → Reading
  | [] => unexpected .identifier []
  | l :: rest =>
    match l.token with
    | .word _ _ => named x sub l rest
    | .number _ _ | .placeholder _ => .ok rest
    | _ => identifier (l :: rest)

/-- Read an index or a range behind the opening bracket. -/
def subscript (x : Context) (sub : Subexpression) (c : List Lexeme) : Reading := do
  let rest ← if startsSymbol ":" c then pure c else sub x 0 c
  if startsSymbol ":" rest then
    let rest := rest.drop 1
    if startsSymbol "]" rest then return rest.drop 1 else symbol "]" (← sub x 0 rest)
  else symbol "]" rest

/-- The part that leads from an operand to a part of its value. -/
def accessor? (x : Context) (sub : Subexpression) : Part
  | [] => none
  | l :: rest =>
    if l.isSymbol "." then
      if startsSymbol "*" rest then
        if x.dialect = .postgreSql then some (.ok (rest.drop 1)) else none
      else some (member x sub rest)
    else if l.isSymbol "[" then some (subscript x sub rest)
    else none

/-- Read a collation, if there is one that is part of the expression. -/
def collation (x : Context) (c : List Lexeme) : Reading :=
  if !x.inColumn && startsWith "COLLATE" c then objectName x.dialect (c.drop 1) else .ok c

/-- Read an expression at some rank, where expressions may be nested so deep. -/
def atRank : Nat → Subexpression
  | 0 => fun _ _ _ => .error .tooDeep
  | depth + 1 => fun x rank c => do
    let rest ← operand x (atRank depth) c
    let rest ← repeated (accessor? x (atRank depth)) (← collation x rest)
    operations x (atRank depth) rank (← collation x rest)

end Expression

/-- How deep statements, queries and expressions may be nested in all. -/
def maxDepth : Nat := 50

/-- Read an expression of a statement. -/
def expression (d : Dialect) : List Lexeme → Reading :=
  Expression.atRank (maxDepth - 1) { dialect := d } 0

/-- Read an expression in the definition of a column. -/
def columnExpression (d : Dialect) : List Lexeme → Reading :=
  Expression.atRank (maxDepth - 1) { dialect := d, inColumn := true } 0

/-- Read an expression of a query. -/
def queryExpression (d : Dialect) : List Lexeme → Reading :=
  Expression.atRank (maxDepth - 2) { dialect := d } 0

end Syntax

end EntityRelation
