import EntityRelation.Arrangement.Order
import EntityRelation.Arrangement.Vector
import EntityRelation.Json.Decode

/-!
# The force arrangement

Tables repel each other, relationships pull their tables to an ideal distance, and a weak force
pulls everything to the middle. In every round each table moves along the force on it, no farther
than the temperature allows, and the temperature falls until nothing moves any more. A last pass
separates tables that still overlap; then all tables are shifted to the start of the diagram and
rounded to whole coordinates.

Rounds are folds over lists of indices, so sums are taken in a fixed order: pairs of tables by
their first index, relationships in the order of the schema.
-/

namespace EntityRelation

/-- The constants of the simulation. -/
structure ForceConfig where
  horizontalSpacing : Float := 80.0
  verticalSpacing : Float := 100.0
  startX : Float := 100.0
  startY : Float := 100.0
  tableWidth : Float := 280.0
  tableHeight : Float := 250.0
  iterations : Nat := 300
  initialTemperature : Float := 100.0
  coolingRate : Float := 0.95
  idealEdgeLength : Float := 400.0
  repulsionStrength : Float := 50000.0
  attractionStrength : Float := 0.1
  deriving Repr, Inhabited

namespace Force

/-- The ratio of a circle's circumference to its diameter. -/
def pi : Float := 3.141592653589793

/-- Vectors by table index. -/
abbrev Field := Array Vector2

/-- The vector at an index. -/
def vectorAt (field : Field) (i : Nat) : Vector2 :=
  field.getD i .zero

/-- The field with `v` added at one index and subtracted at another. -/
def pushApart (field : Field) (i j : Nat) (v : Vector2) : Field :=
  (field.modify i (· + v)).modify j (· - v)

/-- Every pair of different indices below `n`, smaller index first. -/
def pairs (n : Nat) : List (Nat × Nat) :=
  (List.range n).flatMap fun i => (List.range' (i + 1) (n - (i + 1))).map fun j => (i, j)

/-- The middle of the diagram. -/
def center (c : ForceConfig) : Vector2 :=
  ⟨c.startX + 600.0, c.startY + 400.0⟩

/-- Where the tables start: on a circle when they all share one place, else where they are with a
little jitter, so that tables on a line can leave it. -/
def initial (c : ForceConfig) (places : List Position) : Field :=
  let first := places.headD .origin
  let count := Float.ofNat places.length
  if places.any fun p => p.x != first.x || p.y != first.y then
    (places.mapIdx fun i p =>
      let jitter := (Float.ofNat i * 0.1).sin * 10.0
      (⟨p.x + jitter, p.y + jitter⟩ : Vector2)).toArray
  else
    let radius := floatMax (count * 100.0) 300.0
    (places.mapIdx fun i _ =>
      let angle := 2.0 * pi * Float.ofNat i / count
      (⟨(center c).x + radius * angle.cos, (center c).y + radius * angle.sin⟩ : Vector2)).toArray

/-- The forces after two tables have repelled each other. -/
def repel (c : ForceConfig) (places forces : Field) (pair : Nat × Nat) : Field :=
  let delta := vectorAt places pair.1 - vectorAt places pair.2
  let distance := floatMax delta.length 1.0
  let strength :=
    if distance < c.tableWidth + c.horizontalSpacing then
      c.repulsionStrength * 2.0 / (distance * distance)
    else
      c.repulsionStrength / (distance * distance)
  pushApart forces pair.1 pair.2 (delta.normalize.scale strength)

/-- The forces after a relationship has pulled at its parent and its child. -/
def attract (c : ForceConfig) (places forces : Field) (edge : Nat × Nat) : Field :=
  let delta := vectorAt places edge.2 - vectorAt places edge.1
  let distance := floatMax delta.length 1.0
  let strength := c.attractionStrength * (distance - c.idealEdgeLength)
  pushApart forces edge.1 edge.2 (delta.normalize.scale strength)

/-- A place after a step along a force, towards the middle too, that is no longer than the
temperature. -/
def step (c : ForceConfig) (temperature : Float) (place force : Vector2) : Vector2 :=
  let force := force + (center c - place).scale 0.01
  let magnitude := force.length
  if 0.01 < magnitude then
    place + force.normalize.scale (floatMin magnitude temperature)
  else
    place

/-- The places after at most so many rounds. -/
def simulate (c : ForceConfig) (apart edges : List (Nat × Nat)) :
    Nat → Float → Field → Field
  | 0, _, places => places
  | rounds + 1, temperature, places =>
    let still := Array.replicate places.size Vector2.zero
    let forces := edges.foldl (attract c places) (apart.foldl (repel c places) still)
    let places := Array.zipWith (step c temperature) places forces
    let temperature := temperature * c.coolingRate
    if temperature < 0.1 then places else simulate c apart edges rounds temperature places

/-- The places after two tables have been separated, and whether any pair overlapped so far. Tables
are moved along the axis that needs the smaller move. -/
def separate (c : ForceConfig) (state : Field × Bool) (pair : Nat × Nat) : Field × Bool :=
  let width := c.tableWidth + c.horizontalSpacing
  let height := c.tableHeight + c.verticalSpacing
  let delta := vectorAt state.1 pair.1 - vectorAt state.1 pair.2
  let dx := delta.x.abs
  let dy := delta.y.abs
  if dx < width && dy < height then
    let push : Vector2 :=
      if delta.length < 1.0 then ⟨width * 0.5, height * 0.5⟩
      else if width - dx < height - dy then
        ⟨floatSign delta.normalize.x * (width - dx) * 0.5, 0.0⟩
      else
        ⟨0.0, floatSign delta.normalize.y * (height - dy) * 0.5⟩
    (pushApart state.1 pair.1 pair.2 push, true)
  else
    state

/-- The places after at most so many passes over all pairs, until no pair overlaps. -/
def removeOverlaps (c : ForceConfig) (apart : List (Nat × Nat)) : Nat → Field → Field
  | 0, places => places
  | passes + 1, places =>
    let (places, overlapped) := apart.foldl (separate c) (places, false)
    if overlapped then removeOverlaps c apart passes places else places

/-- The least of some numbers, infinity if there are none. -/
def least (numbers : List Float) : Float :=
  numbers.foldl floatMin (1.0 / 0.0)

/-- Places shifted to the start of the diagram, in whole coordinates. -/
def settle (c : ForceConfig) (places : List Vector2) : List Position :=
  let minX := least (places.map (·.x))
  let minY := least (places.map (·.y))
  places.map fun p => ⟨(p.x - minX + c.startX).round, (p.y - minY + c.startY).round⟩

/-- How often pairs that overlap are separated. -/
def overlapPasses : Nat := 50

/-- A place for every table of a schema. -/
def places (c : ForceConfig) (s : Schema) : List Position :=
  match s.entities with
  | [] => []
  | [_] => [⟨c.startX, c.startY⟩]
  | entities =>
    let apart := pairs entities.length
    let edges := s.dependencies.filter fun edge => edge.1 != edge.2
    let start := initial c (entities.map Entity.position)
    let moved := simulate c apart edges c.iterations c.initialTemperature start
    settle c (removeOverlaps c apart overlapPasses moved).toList

end Force

namespace Schema

/-- A place for every entity, by its id. -/
def forceLayout (s : Schema) (c : ForceConfig) : List (EntityId × Position) :=
  (s.entities.map Entity.id).zip (Force.places c s)

/-- The schema with entities moved to places; ids that stand for no entity are passed over. -/
def applyLayout (s : Schema) (layout : List (EntityId × Position)) : Schema :=
  layout.foldl (fun s move => s.updateEntity move.1 fun e => { e with position := move.2 }) s

/-- The schema with its tables moved by forces. -/
def arrangeByForce (s : Schema) : Schema :=
  s.applyLayout (s.forceLayout {})

end Schema

end EntityRelation
