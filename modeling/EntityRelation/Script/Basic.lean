import EntityRelation.Arrangement.Order
import EntityRelation.Dialect.Basic

/-!
# Scripts

A script is what a schema says in the data definition language, before any text is written: the
tables to drop, a definition for every table, and the indexes of every table that has foreign keys.
Names stand in it as they are in the schema. `Script.ofSchema` decides what is said and in which
order; `Script.render` in the module for rendering writes it down.
-/

namespace EntityRelation

/-- The order of table definitions. -/
inductive TableOrder where
  /-- The order of the schema. -/
  | insertion
  /-- Referenced tables before the tables that reference them. -/
  | dependencies
  deriving DecidableEq, Repr, Inhabited

/-- How a schema is written as a script. -/
structure ScriptOptions where
  dialect : Dialect
  /-- Whether a comment in front of each table notes its position. -/
  includePositions : Bool := false
  /-- Whether the tables are dropped first. -/
  includeDrops : Bool := false
  order : TableOrder := .insertion
  deriving DecidableEq, Repr

/-- A column in a table definition. -/
structure ColumnDefinition where
  name : String
  dataType : String
  /-- Whether the column alone is the primary key. -/
  isSoleKey : Bool
  /-- A word after the words for the primary key. -/
  keySuffix : Option String
  isNotNull : Bool
  isUnique : Bool
  default : Option String
  deriving DecidableEq, Repr

/-- A foreign key in a table definition. -/
structure ForeignKeyDefinition where
  column : String
  table : String
  referenced : String
  deriving DecidableEq, Repr

/-- A table definition. -/
structure TableDefinition where
  position : Option Position
  name : String
  columns : List ColumnDefinition
  /-- The columns of a primary key that is more than one column. -/
  compositeKey : List String
  foreignKeys : List ForeignKeyDefinition
  deriving Repr

/-- An index on one column. -/
structure IndexDefinition where
  name : String
  table : String
  column : String
  deriving DecidableEq, Repr

/-- The statements of a script. -/
structure Script where
  drops : List String
  tables : List TableDefinition
  /-- The indexes of each table that has any. -/
  indexes : List (List IndexDefinition)
  deriving Repr

namespace ColumnDefinition

/-- The definition of a field whose table has `keyCount` key columns. -/
def ofField (d : Dialect) (keyCount : Nat) (f : Field) : ColumnDefinition :=
  let isSoleKey := f.isPrimaryKey && keyCount == 1
  let serialKey :=
    if isSoleKey && Serial.ofType? f.dataType == some .serial then d.profile.serialKey else none
  { name := f.name
    dataType := (serialKey.map SerialKey.dataType).getD (d.renderType f.dataType)
    isSoleKey
    keySuffix := serialKey.map SerialKey.suffix
    isNotNull := f.isNotNull
    isUnique := f.isUnique
    default := (f.defaultValue.filter fun value => !Text.isBlankText value).map Text.trimmed }

end ColumnDefinition

namespace ForeignKeyDefinition

/-- The foreign key of a relationship with both ends in place. -/
def ofLink (link : Link) : ForeignKeyDefinition where
  column := link.childField.name
  table := link.parent.name
  referenced := link.parentField.name

end ForeignKeyDefinition

namespace TableDefinition

/-- The definition of an entity of the schema. Relationships with a dangling end are left out. -/
def ofEntity (s : Schema) (options : ScriptOptions) (e : Entity) : TableDefinition where
  position := if options.includePositions then some e.position else none
  name := e.name
  columns := e.fields.map (ColumnDefinition.ofField options.dialect e.primaryKeys.length)
  compositeKey := if 1 < e.primaryKeys.length then e.primaryKeys.map Field.name else []
  foreignKeys :=
    ((s.incoming e.id).filterMap s.resolve?).map ForeignKeyDefinition.ofLink

end TableDefinition

namespace IndexDefinition

/-- The name of the index on a column: `idx`, the table and the column joined by underscores, in
lower case, with an underscore for everything that is no ASCII letter or digit. -/
def nameFor (table column : String) : String :=
  String.ofList (("idx_" ++ table ++ "_" ++ column).toList.map fun c =>
    if c.isAlphanum || c = '_' then c.toLower else '_')

/-- Whether a field is a foreign key, by its own flag or by a relationship. -/
def isIndexed (s : Schema) (e : Entity) (f : Field) : Bool :=
  f.isForeignKey ||
    (s.incoming e.id).any fun r => r.child.field == f.id && (s.resolve? r).isSome

/-- The indexes of an entity, one for each foreign key column. -/
def ofEntity (s : Schema) (e : Entity) : List IndexDefinition :=
  (e.fields.filter (isIndexed s e)).map fun f => ⟨nameFor e.name f.name, e.name, f.name⟩

end IndexDefinition

namespace Script

/-- The entities of a schema in the order of their definitions. A schema whose tables depend on
each other in a circle keeps its own order. -/
def orderedEntities (s : Schema) : TableOrder → List Entity
  | .insertion => s.entities
  | .dependencies =>
    match s.creationOrder? with
    | some indices => indices.filterMap (s.entities[·]?)
    | none => s.entities

/-- What a schema says as a script. -/
def ofSchema (s : Schema) (options : ScriptOptions) : Script :=
  let entities := orderedEntities s options.order
  { drops := if options.includeDrops then entities.reverse.map Entity.name else []
    tables := entities.map (TableDefinition.ofEntity s options)
    indexes := (entities.map (IndexDefinition.ofEntity s)).filter (!·.isEmpty) }

end Script

end EntityRelation
