import EntityRelation.Schema.Basic
import EntityRelation.Validation.Name

/-!
# What can be wrong with a schema

An issue names what it is about by labels, so that its message needs no schema. An issue is
referential when it concerns ids and links, as opposed to names and keys.
-/

namespace EntityRelation

/-- One of the two ends of a relationship. -/
inductive RelationshipEnd where
  | parent
  | child
  deriving DecidableEq, Repr

namespace RelationshipEnd

/-- The word for an end. -/
def word : RelationshipEnd → String
  | parent => "source"
  | child => "target"

/-- The end of a relationship. -/
def of (r : Relationship) : RelationshipEnd → Endpoint
  | parent => r.parent
  | child => r.child

end RelationshipEnd

/-- A problem in a schema. -/
inductive Issue where
  | duplicateEntityId (id : EntityId)
  | duplicateEntityName (name : String)
  | invalidEntityName (entity : String) (fault : NameFault)
  | duplicateFieldId (entity : String) (id : FieldId)
  | emptyFieldName (entity : String) (field : FieldId)
  | duplicateFieldName (entity name : String)
  | missingPrimaryKey (entity : String)
  | duplicateRelationshipId (id : RelationshipId)
  | missingEntity (relationship : RelationshipId) (side : RelationshipEnd) (entity : EntityId)
  | missingField (relationship : RelationshipId) (side : RelationshipEnd) (entity : String)
      (field : FieldId)
  | foreignKeyWithoutReference (entity field : String)
  | unresolvedReference (entity field : String) (target : ColumnName)
  /-- A claimed reference that the relationships do not bear out. -/
  | foreignKeyMismatch (entity field : String) (claimed derived : Option ColumnName)
  /-- A finding about a name that does no harm. -/
  | nameWarning (name : String) (fault : NameFault)
  deriving DecidableEq, Repr

namespace Issue

/-- A referenced column, or nothing. -/
def describe : Option ColumnName → String
  | some c => "'" ++ c.table ++ "." ++ c.field ++ "'"
  | none => "nothing"

/-- The wording of an issue. -/
def message : Issue → String
  | duplicateEntityId id => "Entity id '" ++ id.text ++ "' is used more than once"
  | duplicateEntityName name => "Table name '" ++ name ++ "' is used more than once"
  | invalidEntityName entity fault => "Table '" ++ entity ++ "': " ++ fault.message
  | duplicateFieldId entity id =>
    "Table '" ++ entity ++ "': field id '" ++ id.text ++ "' is used more than once"
  | emptyFieldName entity field =>
    "Table '" ++ entity ++ "': field '" ++ field.text ++ "' has an empty name"
  | duplicateFieldName entity name =>
    "Table '" ++ entity ++ "': column '" ++ name ++ "' is defined more than once"
  | missingPrimaryKey entity => "Table '" ++ entity ++ "' has no primary key"
  | duplicateRelationshipId id => "Relationship id '" ++ id.text ++ "' is used more than once"
  | missingEntity relationship side entity =>
    "Relationship '" ++ relationship.text ++ "' references missing " ++ side.word ++ " entity '" ++
      entity.text ++ "'"
  | missingField relationship side entity field =>
    "Relationship '" ++ relationship.text ++ "' references missing " ++ side.word ++ " field '" ++
      field.text ++ "' in table '" ++ entity ++ "'"
  | foreignKeyWithoutReference entity field =>
    "Column '" ++ entity ++ "." ++ field ++ "' is marked as a foreign key but references nothing"
  | unresolvedReference entity field target =>
    "Column '" ++ entity ++ "." ++ field ++ "' references '" ++ target.table ++ "." ++
      target.field ++ "', which does not exist"
  | foreignKeyMismatch entity field claimed derived =>
    "Column '" ++ entity ++ "." ++ field ++ "' claims to reference " ++ describe claimed ++
      ", but its relationships give " ++ describe derived
  | nameWarning name fault => "'" ++ name ++ "': " ++ fault.message

/-- Whether an issue concerns ids and links. -/
def isReferential : Issue → Bool
  | duplicateEntityId .. | duplicateFieldId .. | duplicateRelationshipId .. | missingEntity ..
  | missingField .. | foreignKeyWithoutReference .. | unresolvedReference .. => true
  | _ => false

end Issue

end EntityRelation
