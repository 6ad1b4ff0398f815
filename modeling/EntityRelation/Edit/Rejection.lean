import EntityRelation.Schema.Basic

/-!
# Why an edit is refused

An edit is either carried out or refused with a cause, and a refused edit leaves the schema alone.
-/

namespace EntityRelation

/-- The cause of a refusal. -/
inductive Rejection where
  | unknownEntity (id : EntityId)
  | unknownField (entity : EntityId) (field : FieldId)
  | unknownRelationship (id : RelationshipId)
  | emptyName
  | duplicateEntityName (name : String)
  | duplicateFieldName (entity name : String)
  | lastField (entity : String)
  | noKeyField (entity : String)
  | duplicateRelationship
  deriving DecidableEq, Repr

namespace Rejection

/-- The wording of a refusal. -/
def message : Rejection → String
  | unknownEntity id => "Entity '" ++ id.text ++ "' does not exist"
  | unknownField entity field =>
    "Field '" ++ field.text ++ "' does not exist in entity '" ++ entity.text ++ "'"
  | unknownRelationship id => "Relationship '" ++ id.text ++ "' does not exist"
  | emptyName => "Name cannot be empty"
  | duplicateEntityName name => "Table '" ++ name ++ "' already exists"
  | duplicateFieldName entity name =>
    "Column '" ++ name ++ "' already exists in table '" ++ entity ++ "'"
  | lastField entity => "Cannot delete the last field of table '" ++ entity ++ "'"
  | noKeyField entity =>
    "Table '" ++ entity ++ "' has no primary or foreign key field to connect"
  | duplicateRelationship => "These fields are already connected"

end Rejection

end EntityRelation
