import EntityRelation.Ddl.Clause

/-!
# Table constraints

A clause of a table body is a constraint or a column definition. Constraints start with words that
could also be column names (`key VARCHAR(50)`, `period DATE`), so each word counts only when the
lexemes after it have the shape of its clause. A clause that starts with `CONSTRAINT` is never a
column.
-/

namespace EntityRelation

namespace Ddl

/-- A constraint on a table, as its clause states it. -/
inductive TableConstraint where
  | primaryKey (columns : List String)
  /-- The table is missing when the clause has no `REFERENCES`. -/
  | foreignKey (columns : List String) (table : Option String) (referenced : List String)
  | unique (columns : List String)
  /-- A clause that says nothing about columns or keys. -/
  | ignored
  deriving DecidableEq, Repr

namespace TableConstraint

open Clause

/-- The columns of the group that the clause starts with, and what follows it. -/
def columnGroup (c : Clause) : List String × Clause :=
  match c.group? with
  | some (inner, rest) => (inner.columnNames, rest)
  | none => ([], c)

/-- The clause from its next group on, where one lexeme may stand in front of the group. -/
def toGroup (c : Clause) : Clause :=
  if c.startsGroup then c else c.drop 1

/-- Whether a list of index columns follows, with or without the name of the index. The first of
them has to be a word, which tells `KEY (a)` from the column `key ENUM('a')`. -/
def indexColumnsFollow (c : Clause) : Bool :=
  let inGroup : Clause → Bool
    | l :: first :: _ => l.token == .leftParen && first.token.isWord
    | _ => false
  if c.startsGroup then inGroup c
  else
    match c with
    | l :: rest => l.isName && inGroup rest
    | [] => false

/-- Whether a clause that says nothing about columns or keys stands here. -/
def isIgnored : Clause → Bool
  | [] => false
  | l :: rest =>
    match l.keyword? with
    | some .check => startsGroup rest
    | some .fulltext | some .spatial => indexColumnsFollow (skipAny [.index, .key] rest)
    | some .key | some .index => indexColumnsFollow rest
    | some .exclude => startsWith .usingWord rest || startsGroup rest
    | some .like =>
      match tableName? rest with
      | none => false
      | some (_, rest) => rest.isEmpty || rest.startsWithAny [.including, .excluding]
    | some .period => startsWith .forWord rest
    | _ => false

/-- What a foreign key clause says after its columns. -/
def foreignTarget (rest : Clause) : Option String × List String :=
  match rest.after? [.references] with
  | none => (none, [])
  | some rest =>
    match rest.tableName? with
    | none => (none, (columnGroup rest).1)
    | some (table, rest) => (some table, (columnGroup rest).1)

/-- The words that may follow `CONSTRAINT` at once, when the constraint has no name. -/
def kinds : List Keyword :=
  [.primary, .foreign, .unique, .check]

/-- What is left after `CONSTRAINT` and the name of the constraint. -/
def afterName (rest : Clause) : Clause :=
  if rest.startsWithAny kinds then rest else rest.drop 1

/-- The constraint that a clause states after its name, if it is one of the three that matter. -/
def body? (c : Clause) : Option TableConstraint :=
  match c.after? [.primary, .key] with
  | some rest => some (.primaryKey (columnGroup rest).1)
  | none =>
    match c.after? [.foreign, .key] with
    | some rest =>
      let (columns, rest) := columnGroup (toGroup rest)
      let (table, referenced) := foreignTarget rest
      some (.foreignKey columns table referenced)
    | none =>
      match c.after? [.unique] with
      | some rest => some (.unique (columnGroup (toGroup (rest.skipAny [.key, .index]))).1)
      | none => none

/-- The constraint that a clause states; none when the clause defines a column. -/
def ofClause? (c : Clause) : Option TableConstraint :=
  match c.after? [.constraint] with
  | some rest => some ((body? (afterName rest)).getD .ignored)
  | none => (body? c).or (if isIgnored c then some .ignored else none)

end TableConstraint

end Ddl

end EntityRelation
