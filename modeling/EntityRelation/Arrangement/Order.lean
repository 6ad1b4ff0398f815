import EntityRelation.Schema.Basic

/-!
# Creating parents before children

Every relationship between two tables asks for its parent table first. `Schema.dependencies` are
the pairs of table indices, parent then child; an id stands for the last table that bears it.
`creationOrder?` counts for each table the pairs that still hold it back, takes the least table
that nothing holds back, and releases the tables that wait for it. When tables are left over in the
end, some of them wait for each other in a circle and there is no order.
-/

namespace EntityRelation

namespace Schema

/-- The index of the last entity that bears an id. -/
def lastIndex? (s : Schema) (id : EntityId) : Option Nat :=
  (s.entities.zipIdx.reverse.find? (·.1.id == id)).map (·.2)

/-- The parent and the child table of every relationship between tables that exist. -/
def dependencies (s : Schema) : List (Nat × Nat) :=
  s.relationships.filterMap fun r => do
    return (← s.lastIndex? r.parent.entity, ← s.lastIndex? r.child.entity)

end Schema

namespace CreationOrder

/-- Progress of the search: how many pairs hold each table back, which tables nothing holds back
(least first), and the tables taken so far (last first). -/
structure State where
  pending : List Nat
  ready : List Nat
  taken : List Nat := []
  deriving DecidableEq, Repr

/-- An index put into its place among smaller and larger ones. -/
def insertSorted (i : Nat) : List Nat → List Nat
  | [] => [i]
  | j :: rest => if i ≤ j then i :: j :: rest else j :: insertSorted i rest

/-- The state after one of the pairs that hold a table back has gone. -/
def State.release (st : State) (child : Nat) : State :=
  let left := st.pending.getD child 0 - 1
  { st with
    pending := st.pending.set child left
    ready := if left = 0 then insertSorted child st.ready else st.ready }

/-- The children that a table holds back, one for each pair. -/
def children (edges : List (Nat × Nat)) (parent : Nat) : List Nat :=
  (edges.filter (·.1 == parent)).map (·.2)

/-- Take ready tables, at most as many as the first argument says. -/
def run (edges : List (Nat × Nat)) : Nat → State → State
  | 0, st => st
  | steps + 1, st =>
    match st.ready with
    | [] => st
    | next :: rest =>
      let st := { st with ready := rest, taken := next :: st.taken }
      run edges steps ((children edges next).foldl State.release st)

/-- The state before the first table is taken. -/
def start (count : Nat) (edges : List (Nat × Nat)) : State :=
  let pending := (List.range count).map fun i => edges.countP (·.2 == i)
  { pending, ready := (List.range count).filter fun i => pending.getD i 0 == 0 }

/-- An order of `count` tables in which the first of every pair precedes the second. -/
def find? (count : Nat) (edges : List (Nat × Nat)) : Option (List Nat) :=
  let final := run edges count (start count edges)
  if final.taken.length = count then some final.taken.reverse else none

end CreationOrder

/-- Table indices with every parent before its children, the least index first where there is a
choice. A table may reference itself. There is no order when tables depend on each other in a
circle. -/
def Schema.creationOrder? (s : Schema) : Option (List Nat) :=
  CreationOrder.find? s.entities.length (s.dependencies.filter fun edge => edge.1 != edge.2)

end EntityRelation
