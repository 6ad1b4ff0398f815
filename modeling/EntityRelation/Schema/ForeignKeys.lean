import EntityRelation.Schema.Basic

/-!
# The foreign key view

A field is a foreign key when some relationship with both ends in place has it as its child end,
and then it references the parent end of the first such relationship. `Schema.syncForeignKeys`
clears the view and writes it anew, one relationship after the other; a field that has been marked
is not marked again.
-/

namespace EntityRelation

namespace Field

/-- The field without any sign of a foreign key. -/
def clearReference (f : Field) : Field :=
  { f with isForeignKey := false, references := none }

/-- The field as a foreign key to a column, unless it is a foreign key already. -/
def markReference (target : ColumnName) (f : Field) : Field :=
  if f.isForeignKey then f else { f with isForeignKey := true, references := some target }

end Field

namespace Schema

/-- The child end of a relationship and the column it references, if both ends are in place. -/
def reference? (s : Schema) (r : Relationship) : Option (Endpoint × ColumnName) :=
  (s.resolve? r).map fun link => (r.child, ⟨link.parent.name, link.parentField.name⟩)

/-- What the relationships say about foreign keys, in their order. -/
def references (s : Schema) : List (Endpoint × ColumnName) :=
  s.relationships.filterMap s.reference?

/-- The schema with the field at an end marked as a foreign key. -/
def markReference (s : Schema) (claim : Endpoint × ColumnName) : Schema :=
  s.updateEntity claim.1.entity fun e => e.updateField claim.1.field (·.markReference claim.2)

/-- The schema with its foreign key view recomputed from the relationships. -/
def syncForeignKeys (s : Schema) : Schema :=
  s.references.foldl markReference (s.mapFields Field.clearReference)

end Schema

end EntityRelation
