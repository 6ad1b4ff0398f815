import EntityRelation.Ddl.Clause
import EntityRelation.Dialect.Serial
import EntityRelation.Schema.Basic

/-!
# Column definitions

A column definition is a name, a type and modifiers. The type runs up to the first modifier word
outside parentheses and keeps its source text. `modifier` reads one modifier and returns what is
left, so `modifiers` ends; words it does not know are passed over together with the group that
follows them. Every spelling of an automatic increment turns an integer type into the serial type
of its size.
-/

namespace EntityRelation

namespace Ddl

/-- Why a clause is no column definition. -/
inductive ColumnFault where
  | unexpected (text : String)
  | empty
  | noType (column : String)
  deriving DecidableEq, Repr

namespace ColumnFault

/-- The wording of a fault. -/
def message : ColumnFault → String
  | unexpected text => "unexpected '" ++ text ++ "' where a column name was expected"
  | empty => "empty column definition"
  | noType column => "column '" ++ column ++ "' has no type"

end ColumnFault

/-- The table that a foreign key names, and the column if it names one. -/
structure ForeignTarget where
  table : String
  column : Option String
  deriving DecidableEq, Repr

/-- A column as its definition states it. -/
structure Column where
  name : String
  dataType : String
  isPrimaryKey : Bool := false
  isNotNull : Bool := false
  isUnique : Bool := false
  defaultValue : Option String := none
  isAutoIncrement : Bool := false
  reference : Option ForeignTarget := none
  deriving DecidableEq, Repr

namespace Clause

/-- The words that end a type and start a modifier. -/
def modifierWords : List Keyword :=
  [.primary, .notWord, .null, .unique, .defaultWord, .references, .check, .constraint,
    .autoIncrement, .autoincrement, .identity, .collate, .generated, .comment, .on, .charset,
    .asWord]

/-- Whether a modifier starts here. -/
def startsModifier : Clause → Bool
  | l :: rest => l.isAny modifierWords || (l.isKeyword .character && startsWith .setWord rest)
  | [] => false

/-- What stands before the first modifier outside all groups, and what follows; `depth` counts the
groups that are open. -/
def run (depth : Nat) : Clause → Clause × Clause
  | [] => ([], [])
  | l :: rest =>
    match l.token with
    | .leftParen => ((run (depth + 1) rest).map (l :: ·) id)
    | .rightParen => ((run (depth - 1) rest).map (l :: ·) id)
    | _ =>
      if depth = 0 && startsModifier (l :: rest) then ([], l :: rest)
      else ((run depth rest).map (l :: ·) id)

/-- The value of a default and what follows it. The first lexeme belongs to the value even if it is
a modifier word, as in `DEFAULT NULL`. -/
def defaultRun : Clause → Clause × Clause
  | [] => ([], [])
  | l :: rest => ((run (if l.token = .leftParen then 1 else 0) rest).map (l :: ·) id)

theorem run_suffix (depth : Nat) (c : Clause) : (run depth c).2 <:+ c := by
  fun_induction run depth c with
  | case1 => exact List.suffix_refl _
  | case2 _ l rest _ ih => exact ih.trans (List.suffix_cons l _)
  | case3 _ l rest _ ih => exact ih.trans (List.suffix_cons l _)
  | case4 => exact List.suffix_refl _
  | case5 _ l rest _ _ _ ih => exact ih.trans (List.suffix_cons l _)

theorem defaultRun_suffix (c : Clause) : (defaultRun c).2 <:+ c := by
  cases c with
  | nil => exact List.suffix_refl _
  | cons l rest => exact (run_suffix _ rest).trans (List.suffix_cons l _)

end Clause

namespace Column

open Clause

/-- The column with a default value, unless the value is empty. -/
def withDefault (column : Column) (value : String) : Column :=
  if value.isEmpty then column else { column with defaultValue := some value }

/-- A foreign key and what follows its target. -/
def readReference (column : Column) (rest : Clause) : Column × Clause :=
  match rest.tableName? with
  | none => (column, rest)
  | some (table, rest) =>
    match rest.group? with
    | none => ({ column with reference := some ⟨table, none⟩ }, rest)
    | some (inner, rest) =>
      ({ column with reference := some ⟨table, inner.columnNames.head?⟩ }, rest)

/-- What follows the word `GENERATED`. -/
def readGenerated (column : Column) (rest : Clause) : Column × Clause :=
  let rest := (rest.skip [.always]).skip [.byWord, .defaultWord]
  match rest.after? [.asWord] with
  | none => (column, rest)
  | some rest =>
    let column := if rest.startsWith .identity then { column with isAutoIncrement := true } else column
    (column, ((rest.skip [.identity]).skipGroup).skipAny [.stored, .virtual])

/-- What is left after the word `AS` of a computed column: the expression and how it is kept. -/
def skipComputed (rest : Clause) : Clause :=
  let rest := rest.skipGroup
  match rest with
  | l :: more =>
    if l.isAny [.stored, .virtual] || l.isSpelled "PERSISTED" then more else l :: more
  | [] => []

/-- What is left after the word `ON` and the action it announces. -/
def skipAction (rest : Clause) : Clause :=
  let rest := rest.skipAny [.update, .delete]
  match rest with
  | l :: more => if l.isAny [.setWord, .no] then more.drop 1 else skipGroup more
  | [] => []

/-- Read the modifier that the lexeme `l` starts; `rest` follows it. -/
def modifier (column : Column) (l : Lexeme) (rest : Clause) : Column × Clause :=
  match l.keyword? with
  | some .primary => ({ column with isPrimaryKey := true }, rest.skip [.key])
  | some .notWord =>
    if rest.startsWith .null then ({ column with isNotNull := true }, rest.drop 1)
    else (column, rest)
  | some .unique => ({ column with isUnique := true }, rest.skip [.key])
  | some .defaultWord => (column.withDefault (defaultRun rest).1.text, (defaultRun rest).2)
  | some .references => column.readReference rest
  | some .autoIncrement | some .autoincrement => ({ column with isAutoIncrement := true }, rest)
  | some .identity => ({ column with isAutoIncrement := true }, rest.skipGroup)
  | some .generated => column.readGenerated rest
  | some .asWord => (column, skipComputed rest)
  | some .on => (column, skipAction rest)
  | some .constraint | some .collate | some .comment | some .charset => (column, rest.drop 1)
  | some .character => (column, (rest.skip [.setWord]).drop 1)
  | _ =>
    if l.token = .leftParen then (column, skipGroup (l :: rest))
    else if l.token.isWord then (column, rest.skipGroup)
    else (column, rest)

/-! ## Every modifier leaves a suffix -/

theorem readReference_suffix (column : Column) (rest : Clause) :
    (column.readReference rest).2 <:+ rest := by
  unfold readReference
  split
  · exact List.suffix_refl _
  · next table after h =>
    have ht := tableName?_suffix h
    split
    · exact ht
    · next h' => exact (group?_suffix h').trans ht

theorem readGenerated_suffix (column : Column) (rest : Clause) :
    (column.readGenerated rest).2 <:+ rest := by
  have hskip : (rest.skip [.always]).skip [.byWord, .defaultWord] <:+ rest :=
    (skip_suffix _ _).trans (skip_suffix _ _)
  unfold readGenerated
  dsimp only
  split
  · exact hskip
  · next h =>
    exact ((skipAny_suffix _ _).trans
      ((skipGroup_suffix _).trans (skip_suffix _ _))).trans ((after?_suffix h).trans hskip)

theorem skipComputed_suffix (rest : Clause) : skipComputed rest <:+ rest := by
  refine List.IsSuffix.trans ?_ (skipGroup_suffix rest)
  unfold skipComputed
  dsimp only
  split
  · next l more h =>
    rw [h]
    split
    · exact List.suffix_cons l _
    · exact List.suffix_refl _
  · exact List.nil_suffix

theorem skipAction_suffix (rest : Clause) : skipAction rest <:+ rest := by
  refine List.IsSuffix.trans ?_ (skipAny_suffix [.update, .delete] rest)
  unfold skipAction
  dsimp only
  split
  · next l more h =>
    rw [h]
    split
    · exact (List.drop_suffix 1 more).trans (List.suffix_cons l _)
    · exact (skipGroup_suffix more).trans (List.suffix_cons l _)
  · exact List.nil_suffix

/-- A group that starts with the lexeme `l` ends beyond it. -/
theorem skipGroup_cons_suffix {l : Lexeme} (h : l.token = .leftParen) (rest : Clause) :
    skipGroup (l :: rest) <:+ rest := by
  simp only [skipGroup, group?, h]
  cases hc : closeGroup? 0 rest with
  | none => exact List.nil_suffix
  | some pair => exact closeGroup?_suffix hc

theorem modifier_suffix (column : Column) (l : Lexeme) (rest : Clause) :
    (column.modifier l rest).2 <:+ rest := by
  unfold modifier
  split
  case h_2 =>
    split
    · exact List.drop_suffix 1 rest
    · exact List.suffix_refl _
  case h_17 =>
    split
    · next h => exact skipGroup_cons_suffix h rest
    · split
      · exact skipGroup_suffix rest
      · exact List.suffix_refl _
  all_goals first
    | exact List.suffix_refl _
    | exact skip_suffix _ _
    | exact skipGroup_suffix _
    | exact List.drop_suffix _ _
    | exact defaultRun_suffix _
    | exact readReference_suffix _ _
    | exact readGenerated_suffix _ _
    | exact skipComputed_suffix _
    | exact skipAction_suffix _
    | exact (List.drop_suffix _ _).trans (skip_suffix _ _)

/-- Read modifiers until the clause is used up. -/
def modifiers (column : Column) : Clause → Column
  | [] => column
  | l :: rest => modifiers (column.modifier l rest).1 (column.modifier l rest).2
termination_by c => c.length
decreasing_by
  have := (modifier_suffix column l rest).length_le
  simp only [List.length_cons]
  omega

/-- Read a column definition. -/
def ofClause : Clause → Except ColumnFault Column
  | [] => .error .empty
  | l :: rest =>
    match l.name? with
    | none => .error (.unexpected l.text)
    | some name =>
      let (type, left) := run 0 rest
      if type.isEmpty then .error (.noType name)
      else .ok (modifiers { name, dataType := type.text } left)

/-- The serial type that an integer type with an automatic increment stands for. -/
def serialOf? (dataType : String) : Option Serial :=
  let base := dataType.toList.takeWhile fun c => !(Text.isBlank c || c = '(')
  match Text.asciiUpper (String.ofList base) with
  | "INT" | "INTEGER" | "INT4" | "MEDIUMINT" | "SERIAL" => some .serial
  | "BIGINT" | "INT8" | "BIGSERIAL" => some .bigSerial
  | _ => none

/-- The type that the column has in the schema. -/
def storedType (column : Column) : String :=
  if column.isAutoIncrement then
    match serialOf? column.dataType with
    | some kind => kind.spelling
    | none => column.dataType
  else column.dataType

/-- The column as a field of the schema. -/
def toField (column : Column) (id : FieldId) : Field where
  id
  name := column.name
  dataType := column.storedType
  isPrimaryKey := column.isPrimaryKey
  isNotNull := column.isNotNull
  isUnique := column.isUnique
  defaultValue := column.defaultValue

end Column

end Ddl

end EntityRelation
