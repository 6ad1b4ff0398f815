import EntityRelation.Dialect.Basic
import EntityRelation.Validation.Issue

/-!
# Validating a schema

The validator collects every violation of the structural rules instead of stopping at the first
one: first the ids and names of tables, then the columns of each table, then the relationships, and
last the references that fields claim. Names are compared trimmed and in full lower case. Every
repeated id is an issue of its own, while a repeated name is reported once, at its second
occurrence.
-/

namespace EntityRelation

/-- What `f` finds at each element, given the elements before it (nearest first). -/
def flatMapAfter {α β : Type} (f : List α → α → List β) (before : List α) : List α → List β
  | [] => []
  | a :: rest => f before a ++ flatMapAfter f (a :: before) rest

/-- The form in which names are compared. -/
def nameKey (name : String) : List Char :=
  Text.toLower (Text.trim name.toList)

/-- The rules that a schema is checked against. -/
structure Validator where
  /-- The dialect that limits the length of names. -/
  dialect : Option Dialect := none
  level : Strictness := .minimal
  deriving DecidableEq, Repr

/-- Errors and warnings, each in the order of the checks. -/
structure ValidationReport where
  errors : List Issue
  warnings : List Issue
  deriving DecidableEq, Repr

namespace ValidationReport

/-- Whether no error was found. -/
def isValid (r : ValidationReport) : Bool :=
  r.errors.isEmpty

end ValidationReport

namespace Validator

/-- The limit on the length of names. -/
def maxLength (v : Validator) : Option Nat :=
  match v.dialect with
  | some d => d.profile.maxNameLength
  | none => some maxNameLength

/-- The outcome of the rules for names on the name of an entity. -/
def checkEntityName (v : Validator) (e : Entity) : NameCheck :=
  checkName e.name v.level v.maxLength

/-- The errors of an entity's id and name, given the entities before it. -/
def entityErrors (v : Validator) (before : List Entity) (e : Entity) : List Issue :=
  let key := nameKey e.name
  (if before.any (·.id == e.id) then [.duplicateEntityId e.id] else []) ++
    (v.checkEntityName e).errors.map (.invalidEntityName e.label) ++
    (if !key.isEmpty && before.countP (nameKey ·.name == key) == 1 then
      [.duplicateEntityName e.name]
    else [])

/-- The warnings about an entity's name. -/
def entityWarnings (v : Validator) (e : Entity) : List Issue :=
  (v.checkEntityName e).warnings.map (.nameWarning e.name)

/-- The errors of a field of the table `table`, given the fields before it. -/
def fieldErrors (table : String) (before : List Field) (f : Field) : List Issue :=
  let key := nameKey f.name
  (if before.any (·.id == f.id) then [.duplicateFieldId table f.id] else []) ++
    (if key.isEmpty then [.emptyFieldName table f.id]
    else if before.countP (nameKey ·.name == key) == 1 then [.duplicateFieldName table f.name]
    else [])

/-- The errors of the columns of an entity. -/
def columnErrors (e : Entity) : List Issue :=
  flatMapAfter (fieldErrors e.label) [] e.fields ++
    (if e.primaryKeys.isEmpty then [.missingPrimaryKey e.label] else [])

/-- The error of one end of a relationship. -/
def endErrors (s : Schema) (r : Relationship) (side : RelationshipEnd) : List Issue :=
  let endpoint := side.of r
  match s.entity? endpoint.entity with
  | none => [.missingEntity r.id side endpoint.entity]
  | some e =>
    if (e.field? endpoint.field).isSome then []
    else [.missingField r.id side e.label endpoint.field]

/-- The errors of a relationship, given those before it. -/
def relationshipErrors (s : Schema) (before : List Relationship) (r : Relationship) : List Issue :=
  (if before.any (·.id == r.id) then [.duplicateRelationshipId r.id] else []) ++
    endErrors s r .parent ++ endErrors s r .child

/-- Whether a column that a field claims to reference exists. -/
def hasColumn (s : Schema) (c : ColumnName) : Bool :=
  (s.entityNamed? c.table).any fun e => (e.fieldNamed? c.field).isSome

/-- The error of the reference that a field of an entity claims. -/
def referenceErrors (s : Schema) (e : Entity) (f : Field) : List Issue :=
  if f.isForeignKey then
    match f.references with
    | none => [.foreignKeyWithoutReference e.label f.label]
    | some target =>
      if hasColumn s target then [] else [.unresolvedReference e.label f.label target]
  else []

/-- All errors of a schema. -/
def errors (v : Validator) (s : Schema) : List Issue :=
  flatMapAfter v.entityErrors [] s.entities ++ s.entities.flatMap columnErrors ++
    flatMapAfter (relationshipErrors s) [] s.relationships ++
    s.entities.flatMap fun e => e.fields.flatMap (referenceErrors s e)

/-- All warnings about a schema. -/
def warnings (v : Validator) (s : Schema) : List Issue :=
  s.entities.flatMap v.entityWarnings

/-- Check a schema. -/
def validate (v : Validator) (s : Schema) : ValidationReport :=
  ⟨v.errors s, v.warnings s⟩

end Validator

end EntityRelation
