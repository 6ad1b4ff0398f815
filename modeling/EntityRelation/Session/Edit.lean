import EntityRelation.Arrangement.Force
import EntityRelation.Arrangement.Grid
import EntityRelation.Ddl.Import
import EntityRelation.Edit.Operation

/-!
# Edits of a session

An edit is an operation, a script that replaces the whole schema, or an arrangement of all tables.
Tables that keep their name when a script replaces the schema keep their place.
-/

namespace EntityRelation

/-- A way to arrange all tables. -/
inductive Arrangement where
  | grid
  | force
  deriving DecidableEq, Repr

/-- An edit of a session. -/
inductive SessionEdit where
  | replaceScript (sql : String)
  | operation (op : Operation)
  | arrange (arrangement : Arrangement)
  deriving Repr

/-- Why an edit of a session changes nothing. -/
inductive EditError where
  | importFailed (error : Ddl.ImportError)
  | rejected (rejection : Rejection)
  deriving DecidableEq, Repr

/-- The schema with tables where another schema has tables of the same names. -/
def Schema.keepPlaces (previous next : Schema) : Schema :=
  { next with
    entities := next.entities.map fun e =>
      match previous.entityNamed? e.name with
      | some old => { e with position := old.position }
      | none => e }

/-- The schema with all tables arranged. -/
def Schema.arrange (s : Schema) : Arrangement → Schema
  | .grid => s.arrangeOnGrid
  | .force => s.arrangeByForce

namespace SessionEdit

/-- The schema after an edit, and the ids that are left. -/
def perform (s : Schema) (ids : IdSupply) : SessionEdit → Except EditError (Schema × IdSupply)
  | replaceScript sql =>
    match Ddl.importScript sql with
    | .error e => .error (.importFailed e)
    | .ok report => .ok (s.keepPlaces report.schema, ids)
  | operation op =>
    match op.perform s ids with
    | .error e => .error (.rejected e)
    | .ok performed => .ok (performed.schema, performed.ids)
  | arrange arrangement => .ok (s.arrange arrangement, ids)

end SessionEdit

end EntityRelation
