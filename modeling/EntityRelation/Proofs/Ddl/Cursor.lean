import EntityRelation.Ddl.Import

/-!
# Reading with a cursor

The readers of clauses take lexemes off the front of a list. Here is the same reading with a cursor
that moves in the whole list, as a `Walk`: it may move back, it finds ends by scans of their own,
and it cuts slices between positions. Each of these steps is checked, and a walk that would leave
the list, cut a slice with its ends out of order, go below zero or loop in one place stops with a
`Fault`.
-/

namespace EntityRelation

namespace Ddl

/-- What can go wrong with positions in a list. -/
inductive Fault where
  /-- The cursor leaves the list. -/
  | overrun
  /-- The ends of a slice are out of order, or beyond the end of the list. -/
  | slice
  /-- One is taken from zero. -/
  | underflow
  /-- A turn of a loop has not brought the cursor further. -/
  | stalled
  deriving DecidableEq, Repr

/-- A computation with a cursor. -/
abbrev Walk (α : Type) := StateT Nat (Except Fault) α

namespace Walk

section Primitives

variable (lexemes : Clause)

/-- The lexemes from one position up to another. -/
def slice (start stop : Nat) : Except Fault Clause :=
  if start ≤ stop ∧ stop ≤ lexemes.length then .ok (lexemes.extract start stop)
  else .error .slice

/-- Put the cursor at a position. -/
def moveTo (pos : Nat) : Walk Unit :=
  if pos ≤ lexemes.length then set pos else throw .overrun

/-- Put the cursor one lexeme back. -/
def stepBack : Walk Unit := do
  match ← get with
  | 0 => throw .underflow
  | pos + 1 => moveTo lexemes pos

/-- The lexeme at the cursor, which moves behind it. -/
def next : Walk (Option Lexeme) := do
  let pos ← get
  match lexemes[pos]? with
  | none => return none
  | some l =>
    moveTo lexemes (pos + 1)
    return some l

/-- Whether the lexeme at the cursor passes a test. -/
def sees (test : Lexeme → Bool) : Walk Bool := do
  return lexemes[← get]?.any test

/-- Move behind the lexeme at the cursor if it passes a test, and say whether it does. -/
def eat (test : Lexeme → Bool) : Walk Bool := do
  if ← sees lexemes test then
    moveTo lexemes ((← get) + 1)
    return true
  else
    return false

/-- Move behind a keyword. -/
def eatKeyword (k : Keyword) : Walk Bool :=
  eat lexemes (·.isKeyword k)

/-- Move behind a run of keywords, if all of it is there. -/
def eatKeywords (ks : List Keyword) : Walk Bool := do
  let pos ← get
  if ks.zipIdx.all fun (k, i) => lexemes[pos + i]?.any (·.isKeyword k) then
    moveTo lexemes (pos + ks.length)
    return true
  else
    return false

/-- Move behind one of some keywords. -/
def eatAny : List Keyword → Walk Bool
  | [] => return false
  | k :: ks => do
    if ← eatKeyword lexemes k then
      return true
    else
      eatAny ks

/-- Move on while one of some keywords is there. -/
def eatAll (ks : List Keyword) (pos : Nat) : Except Fault (Unit × Nat) := do
  match ← (eatAny lexemes ks).run pos with
  | (false, pos) => return ((), pos)
  | (true, later) =>
    if pos < later ∧ later ≤ lexemes.length then eatAll ks later else throw .stalled
termination_by lexemes.length - pos

/-- The last part of a name with periods whose first part is read already. -/
def qualifiedFrom (name : String) (pos : Nat) : Except Fault (String × Nat) :=
  if lexemes[pos]?.any (·.token == .period) then
    match lexemes[pos + 1]?.bind Lexeme.name? with
    | none => return (name, pos)
    | some name =>
      if pos + 2 ≤ lexemes.length then qualifiedFrom name (pos + 2) else throw .overrun
  else
    return (name, pos)
termination_by lexemes.length - pos

/-- The table that a name stands for. -/
def tableName : Walk (Option String) := do
  let pos ← get
  match lexemes[pos]?.bind Lexeme.name? with
  | none => return none
  | some name =>
    moveTo lexemes (pos + 1)
    return some (← qualifiedFrom lexemes name)

/-- The lexemes from the cursor on. -/
def remaining : Walk Clause := do
  slice lexemes (min (← get) lexemes.length) lexemes.length

/-! ## Groups -/

/-- Where the last of `depth` open groups closes, among lexemes of which the first has the
position `pos`. -/
def closingFrom (depth pos : Nat) : Clause → Except Fault (Option Nat)
  | [] => return none
  | l :: rest =>
    if l.token = .leftParen then closingFrom (depth + 1) (pos + 1) rest
    else if l.token = .rightParen then
      match depth with
      | 0 => throw .underflow
      | depth + 1 => if depth = 0 then return some pos else closingFrom depth (pos + 1) rest
    else closingFrom depth (pos + 1) rest

/-- The position of the parenthesis that closes the group opened at a position. -/
def matchingParen (start : Nat) : Except Fault (Option Nat) :=
  closingFrom 0 start (lexemes.drop start)

/-- The inside of the group at the cursor, which moves behind the group. A group that is never
closed takes all that is left. -/
def group : Walk (Option Clause) := do
  if ← sees lexemes (·.token == .leftParen) then
    let start ← get
    let close := (← matchingParen lexemes start).getD lexemes.length
    moveTo lexemes (min (close + 1) lexemes.length)
    return some (← slice lexemes (start + 1) (max close (start + 1)))
  else
    return none

/-- Whether a modifier starts at a position. -/
def isModifier (pos : Nat) : Bool :=
  lexemes[pos]?.any fun l => l.isAny Clause.modifierWords ||
    (l.isKeyword .character && lexemes[pos + 1]?.any (·.isKeyword .setWord))

/-- Where a run of lexemes ends that has come to `pos` with `depth` groups open; the lexeme at
`first` belongs to the run whatever it is. -/
def runEnd (first : Option Nat) (depth pos : Nat) : Nat :=
  match h : lexemes[pos]? with
  | none => pos
  | some l =>
    if l.token = .leftParen then runEnd first (depth + 1) (pos + 1)
    else if l.token = .rightParen then runEnd first (depth - 1) (pos + 1)
    else if depth = 0 ∧ first ≠ some pos ∧ isModifier lexemes pos = true then pos
    else runEnd first depth (pos + 1)
termination_by lexemes.length - pos
decreasing_by all_goals have := (List.getElem?_eq_some_iff.1 h).1; omega

/-- The slices between the commas outside all groups, the first of them from `start` on, among
lexemes of which the first has the position `pos`. -/
def partsFrom (depth start pos : Nat) : Clause → Except Fault (List Clause)
  | [] => return [← slice lexemes start lexemes.length]
  | l :: rest =>
    if l.token = .leftParen then partsFrom (depth + 1) start (pos + 1) rest
    else if l.token = .rightParen then partsFrom (depth - 1) start (pos + 1) rest
    else if l.token = .comma ∧ depth = 0 then
      return (← slice lexemes start pos) :: (← partsFrom 0 (pos + 1) (pos + 1) rest)
    else partsFrom depth start (pos + 1) rest

/-- The slices between the commas outside all groups, without the empty ones. -/
def splitTopLevel : Except Fault (List Clause) := do
  return (← partsFrom lexemes 0 0 0 lexemes).filter (!·.isEmpty)

/-- The names of a list of columns. -/
def columnNames : Except Fault (List String) := do
  return (← splitTopLevel lexemes).filterMap fun entry => entry.head?.bind Lexeme.name?

/-- The columns of the group at the cursor. -/
def columnGroup : Walk (List String) := do
  match ← group lexemes with
  | none => return []
  | some inner => columnNames inner

end Primitives

/-! ## Columns -/

section Columns

variable (lexemes : Clause)

/-- Read what follows the word `NOT`. -/
def readNull (column : Column) : Walk Column := do
  if ← eatKeyword lexemes .null then
    return { column with isNotNull := true }
  else
    return column

/-- Read the value of a default. -/
def readDefault (column : Column) : Walk Column := do
  let start ← get
  let stop := runEnd lexemes (some start) 0 start
  let value ← slice lexemes start stop
  moveTo lexemes stop
  return column.withDefault value.text

/-- Read the target of a foreign key. -/
def readReference (column : Column) : Walk Column := do
  match ← tableName lexemes with
  | none => return column
  | some table =>
    match ← group lexemes with
    | none => return { column with reference := some ⟨table, none⟩ }
    | some inner => return { column with reference := some ⟨table, (← columnNames inner).head?⟩ }

/-- Read what follows the word `GENERATED`. -/
def readGenerated (column : Column) : Walk Column := do
  discard <| eatKeyword lexemes .always
  discard <| eatKeywords lexemes [.byWord, .defaultWord]
  if ← eatKeyword lexemes .asWord then
    let numbered ← eatKeyword lexemes .identity
    discard <| group lexemes
    discard <| eatAny lexemes [.stored, .virtual]
    return if numbered then { column with isAutoIncrement := true } else column
  else
    return column

/-- Pass over the expression of a computed column and how it is kept. -/
def skipComputed : Walk Unit := do
  discard <| group lexemes
  unless ← eatAny lexemes [.stored, .virtual] do
    discard <| eat lexemes (·.isSpelled "PERSISTED")

/-- Pass over what follows the word `ON`. -/
def skipAction : Walk Unit := do
  discard <| eatAny lexemes [.update, .delete]
  if ← eatAny lexemes [.setWord, .no] then
    discard <| next lexemes
  else
    discard <| next lexemes
    discard <| group lexemes

/-- Read the modifier that the lexeme `l` behind the cursor starts. -/
def modifier (column : Column) (l : Lexeme) : Walk Column := do
  match l.keyword? with
  | some .primary =>
    discard <| eatKeyword lexemes .key
    return { column with isPrimaryKey := true }
  | some .notWord => readNull lexemes column
  | some .unique =>
    discard <| eatKeyword lexemes .key
    return { column with isUnique := true }
  | some .defaultWord => readDefault lexemes column
  | some .references => readReference lexemes column
  | some .autoIncrement | some .autoincrement => return { column with isAutoIncrement := true }
  | some .identity =>
    discard <| group lexemes
    return { column with isAutoIncrement := true }
  | some .generated => readGenerated lexemes column
  | some .asWord =>
    skipComputed lexemes
    return column
  | some .on =>
    skipAction lexemes
    return column
  | some .check =>
    discard <| group lexemes
    return column
  | some .constraint | some .collate | some .comment | some .charset =>
    discard <| next lexemes
    return column
  | some .character =>
    discard <| eatKeyword lexemes .setWord
    discard <| next lexemes
    return column
  | _ =>
    if l.token = .leftParen then
      stepBack lexemes
      discard <| group lexemes
      return column
    else if l.token.isWord then
      discard <| group lexemes
      return column
    else
      return column

/-- One turn of the loop over the modifiers; none at the end of the list. -/
def turn (column : Column) : Walk (Option Column) := do
  match ← next lexemes with
  | none => return none
  | some l => return some (← modifier lexemes column l)

/-- Read modifiers up to the end of the list, where each turn has to bring the cursor further. -/
def modifiers (column : Column) (pos : Nat) : Except Fault (Column × Nat) := do
  match ← (turn lexemes column).run pos with
  | (none, pos) => return (column, pos)
  | (some column, later) =>
    if pos < later ∧ later ≤ lexemes.length then modifiers column later else throw .stalled
termination_by lexemes.length - pos

/-- Read a column definition. -/
def column : Walk (Except ColumnFault Column) := do
  match lexemes.head? with
  | none => return .error .empty
  | some l =>
    match l.name? with
    | none => return .error (.unexpected l.text)
    | some name =>
      let stop := runEnd lexemes none 0 1
      let type ← slice lexemes 1 stop
      if type.isEmpty then
        return .error (.noType name)
      else
        moveTo lexemes stop
        return .ok (← modifiers lexemes { name, dataType := type.text })

end Columns

/-! ## Constraints -/

section Constraints

variable (lexemes : Clause)

/-- Move behind one lexeme unless a group starts at the cursor. -/
def toGroup : Walk Unit := do
  unless ← sees lexemes (·.token == .leftParen) do
    discard <| next lexemes

/-- Whether the lexeme `l` behind the cursor starts a clause that says nothing about columns or
keys. -/
def ignores (l : Lexeme) : Walk Bool := do
  match l.keyword? with
  | some .check => sees lexemes (·.token == .leftParen)
  | some .fulltext | some .spatial =>
    discard <| eatAny lexemes [.index, .key]
    return TableConstraint.indexColumnsFollow (← remaining lexemes)
  | some .key | some .index => return TableConstraint.indexColumnsFollow (← remaining lexemes)
  | some .exclude => sees lexemes fun l => l.isKeyword .usingWord || l.token == .leftParen
  | some .like =>
    match ← tableName lexemes with
    | none => return false
    | some _ => return lexemes[← get]?.all (·.isAny [.including, .excluding])
  | some .period => sees lexemes (·.isKeyword .forWord)
  | _ => return false

/-- Whether a clause that says nothing about columns or keys stands at the cursor. -/
def isIgnored : Walk Bool := do
  match ← next lexemes with
  | none => return false
  | some l => ignores lexemes l

/-- Read what a foreign key clause says after its columns. -/
def foreignTarget : Walk (Option String × List String) := do
  if ← eatKeyword lexemes .references then
    let table ← tableName lexemes
    return (table, ← columnGroup lexemes)
  else
    return (none, [])

/-- The constraint at the cursor, if it is one of the three that matter. -/
def constraintBody : Walk (Option TableConstraint) := do
  if ← eatKeywords lexemes [.primary, .key] then
    return some (.primaryKey (← columnGroup lexemes))
  else if ← eatKeywords lexemes [.foreign, .key] then
    toGroup lexemes
    let columns ← columnGroup lexemes
    let (table, referenced) ← foreignTarget lexemes
    return some (.foreignKey columns table referenced)
  else if ← eatKeyword lexemes .unique then
    discard <| eatAny lexemes [.key, .index]
    toGroup lexemes
    return some (.unique (← columnGroup lexemes))
  else
    return none

/-- Move behind the name of a constraint, unless the cursor is at the kind of one without a name. -/
def afterName : Walk Unit := do
  unless ← sees lexemes (·.isAny TableConstraint.kinds) do
    discard <| next lexemes

/-- The constraint that a clause states; none when the clause defines a column. -/
def constraint : Walk (Option TableConstraint) := do
  let named ← eatKeyword lexemes .constraint
  if named then
    afterName lexemes
  match ← constraintBody lexemes with
  | some constraint => return some constraint
  | none =>
    if named then return some .ignored
    else if ← isIgnored lexemes then return some .ignored
    else return none

end Constraints

end Walk

/-! ## Tables -/

/-- The draft after a clause that has been read as a column or not. -/
def TableDraft.addRead (index line : Nat) (draft : TableDraft) :
    Except ColumnFault Column → TableDraft
  | .error fault => draft.warn line (.columnSkipped draft.entity.name fault)
  | .ok column =>
    if (draft.entity.fieldNamed? column.name).isSome then
      draft.warn line (.duplicateColumn draft.entity.name column.name)
    else
      let draft :=
        match column.reference with
        | none => draft
        | some target =>
          draft.addKey ⟨draft.entity.id, column.name, target.table, target.column, 0, line⟩
      draft.pushColumn index column

namespace Walk

/-- What a walk over a whole list of lexemes gives. -/
def through {α : Type} (walk : Clause → Walk α) (lexemes : Clause) : Except Fault α :=
  ((walk lexemes).run 0).map (·.1)

/-- The draft and the constraints after one more clause of a table body. -/
def addClause (index line : Nat) (read : TableDraft × List TableConstraint) (clause : Clause) :
    Except Fault (TableDraft × List TableConstraint) := do
  match ← through constraint clause with
  | some constraint => return (read.1, read.2 ++ [constraint])
  | none => return (read.1.addRead index line (← through column clause), read.2)

/-- The draft after one action of an alteration. -/
def addAction (index line : Nat) (draft : TableDraft) (action : Clause) : Walk TableDraft := do
  if ← eatKeyword action .add then
    match ← through constraint (← remaining action) with
    | some constraint => return draft.applyConstraint line constraint
    | none =>
      discard <| eatKeyword action .column
      discard <| eatKeywords action [.ifWord, .notWord, .existsWord]
      return draft.addRead index line (← through column (← remaining action))
  else
    return draft

section Statements

variable (draft : Draft) (s : Statement)

/-- The name and the body of a table definition. -/
def tableHeader (lexemes : Clause) : Walk (Except TableFault (String × Clause)) := do
  discard <| eatKeywords lexemes [.ifWord, .notWord, .existsWord]
  match ← tableName lexemes with
  | none => return .error .missingName
  | some name =>
    if ← sees lexemes (·.token == .leftParen) then
      let start ← get
      match ← matchingParen lexemes start with
      | none => return .error (.unbalanced name)
      | some close =>
        let body ← slice lexemes (start + 1) close
        if body.isEmpty then
          return .error (.noColumns name)
        else
          return .ok (name, body)
    else
      return .error (.noColumnList name)

/-- The draft after a table definition with a name and a body. -/
def addTable (name : String) (body : Clause) : Except Fault Draft := do
  if (draft.schema.entityNamed? name).isSome then
    return draft.warn s.line (.duplicateTable name)
  else
    let index := draft.entities.length
    let clauses ← splitTopLevel body
    let (columns, constraints) ←
      clauses.foldlM (addClause index s.line) (Draft.newTable index s name, [])
    if columns.entity.fields.isEmpty then
      return (draft.absorb columns).skip s (.noUsableColumns name)
    else
      let table := constraints.foldl (TableDraft.applyConstraint s.line) columns
      return { draft.absorb table with entities := draft.entities ++ [table.entity] }

/-- The draft after a statement that creates a table. -/
def createTable : Walk Draft := do
  match ← tableHeader s.lexemes with
  | .error fault => return draft.skip s fault
  | .ok (name, body) => addTable draft s name body

/-- The draft after a statement that alters a table. -/
def alterTable : Walk Draft := do
  discard <| eatKeyword s.lexemes .only
  discard <| eatKeywords s.lexemes [.ifWord, .existsWord]
  match ← tableName s.lexemes with
  | none => return draft.warn s.line .alterWithoutName
  | some name =>
    match draft.entities.findIdx? fun e => Text.sameName e.name name with
    | none => return draft.warn s.line (.alterUnknownTable name)
    | some index =>
      match draft.entities[index]? with
      | none => return draft
      | some entity =>
        let actions ← splitTopLevel (← remaining s.lexemes)
        let table ← actions.foldlM
          (fun table action => through (addAction index s.line table) action)
          { entity }
        return { draft.absorb table with entities := draft.entities.set index table.entity }

/-- The draft after a statement. -/
def statement : Walk Draft := do
  if ← eatKeyword s.lexemes .create then
    discard <| eatKeywords s.lexemes [.orWord, .replace]
    eatAll s.lexemes tableQualities
    if ← eatKeyword s.lexemes .table then
      createTable draft s
    else
      return draft
  else if ← eatKeywords s.lexemes [.alter, .table] then
    alterTable draft s
  else
    return draft

end Statements

end Walk

end Ddl

end EntityRelation
