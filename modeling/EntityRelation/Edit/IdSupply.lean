import EntityRelation.Schema.Basic

/-!
# Ids for what is new

New entities, fields and relationships are numbered from one, each kind for itself. A supply
remembers how many of each kind there have been, so that no number is given out twice, even when
the edit that used it is undone.
-/

namespace EntityRelation

/-- How many ids of each kind have been given out. -/
structure IdSupply where
  entities : Nat := 0
  fields : Nat := 0
  relationships : Nat := 0
  deriving DecidableEq, Repr, Inhabited

namespace IdSupply

/-- The next id of an entity. -/
def entity (ids : IdSupply) : EntityId :=
  ⟨"entity-new-" ++ toString (ids.entities + 1)⟩

/-- The next id of a field. -/
def field (ids : IdSupply) : FieldId :=
  ⟨"field-new-" ++ toString (ids.fields + 1)⟩

/-- The next id of a relationship. -/
def relationship (ids : IdSupply) : RelationshipId :=
  ⟨"relationship-new-" ++ toString (ids.relationships + 1)⟩

/-- The supply after an entity with its key field. -/
def afterEntity (ids : IdSupply) : IdSupply :=
  { ids with entities := ids.entities + 1, fields := ids.fields + 1 }

/-- The supply after a field. -/
def afterField (ids : IdSupply) : IdSupply :=
  { ids with fields := ids.fields + 1 }

/-- The supply after a relationship. -/
def afterRelationship (ids : IdSupply) : IdSupply :=
  { ids with relationships := ids.relationships + 1 }

end IdSupply

end EntityRelation
