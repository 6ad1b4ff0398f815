import EntityRelation.Proofs.Validation.WellFormed
import Mathlib.Algebra.BigOperators.Group.List.Basic
import Mathlib.Algebra.GroupWithZero.Nat

/-!
# How often a defect is reported

The validator goes over a schema in four passes, and the kind of an issue tells the pass that finds
it (`Validator.pass?_of_mem`), so no pass adds to what another one counts. Within a pass an element
is checked against the elements before it. What the checks count so far is then a function of those
elements alone, and the counts along the list telescope (`countP_flatMapAfter`): an id is reported
once for each repetition, a name once however often it is repeated, and everything else once for
each element that has the defect (`Validator.reports_errors`).
-/

namespace EntityRelation

/-! ## Counting along a list -/

section Counting

variable {α β κ : Type} {p : β → Bool} {f : List α → α → List β}

theorem countP_ite_singleton (c : Prop) [Decidable c] (b : β) :
    (if c then [b] else []).countP p = if c ∧ p b = true then 1 else 0 := by
  by_cases hc : c
  · simp [hc, List.countP_singleton]
  · simp [hc]

/-- When each element adds to a count what is found at it, the count of a list is what is found
along it. -/
theorem countP_flatMapAfter (count : List α → Nat)
    (hstep : ∀ before a, count (a :: before) = count before + (f before a).countP p)
    (as before : List α) :
    (flatMapAfter f before as).countP p + count before = count (as.reverse ++ before) := by
  induction as generalizing before with
  | nil => simp [flatMapAfter]
  | cons a rest ih =>
      rw [flatMapAfter, List.countP_append, List.reverse_cons, List.append_assoc,
        List.singleton_append, ← ih, hstep]
      omega

theorem countP_flatMapAfter_each {q : α → Bool}
    (h : ∀ before a, (f before a).countP p = if q a = true then 1 else 0) (as : List α) :
    (flatMapAfter f [] as).countP p = as.countP q := by
  have htotal := countP_flatMapAfter (f := f) (p := p) (·.countP q)
    (fun before a => by rw [List.countP_cons, h]) as []
  simpa using htotal

theorem countP_flatMapAfter_sum {g : α → Nat} (h : ∀ before a, (f before a).countP p = g a)
    (as : List α) : (flatMapAfter f [] as).countP p = (as.map g).sum := by
  have htotal := countP_flatMapAfter (f := f) (p := p) (fun before => (before.map g).sum)
    (fun before a => by rw [List.map_cons, List.sum_cons, h, Nat.add_comm]) as []
  simpa [List.sum_reverse] using htotal

variable [BEq κ] [LawfulBEq κ] (key : α → κ) (k : κ)

/-- A key that is reported whenever an element before has it is reported for each repetition. -/
theorem countP_flatMapAfter_repeats
    (h : ∀ before a, (f before a).countP p =
      if before.any (fun b => key b == key a) = true ∧ (key a == k) = true then 1 else 0) (as : List α) :
    (flatMapAfter f [] as).countP p = as.countP (fun a => key a == k) - 1 := by
  have htotal := countP_flatMapAfter (f := f) (p := p)
    (fun before => before.countP (fun b => key b == k) - 1) (fun before a => ?_) as []
  · simpa using htotal
  · rw [h, List.countP_cons]
    by_cases ha : key a = k
    · have hany : before.any (fun b => key b == k) = true ↔
          0 < before.countP fun b => key b == k := by
        rw [List.any_eq_true, List.countP_pos_iff]
      simp only [ha, hany, beq_self_eq_true, if_true, and_true]
      split <;> omega
    · simp [ha]

/-- A key that is reported when exactly one element before has it is reported once. -/
theorem countP_flatMapAfter_second (named : κ → Bool)
    (h : ∀ before a, (f before a).countP p =
      if named (key a) = true ∧ before.countP (fun b => key b == key a) = 1 ∧
        (key a == k) = true then 1 else 0) (as : List α) :
    (flatMapAfter f [] as).countP p =
      if named k = true ∧ 2 ≤ as.countP (fun a => key a == k) then 1 else 0 := by
  have htotal := countP_flatMapAfter (f := f) (p := p)
    (fun before => if named k = true ∧ 2 ≤ before.countP (fun b => key b == k) then 1 else 0)
    (fun before a => ?_) as []
  · simpa using htotal
  · rw [h, List.countP_cons]
    by_cases ha : key a = k
    · simp only [ha, beq_self_eq_true, if_true, and_true]
      by_cases hnamed : named k = true
      · simp only [hnamed, true_and]
        split <;> split <;> split <;> omega
      · simp [hnamed]
    · simp [ha]

theorem countP_flatMap_each {f : α → List β} {q : α → Bool}
    (h : ∀ a, (f a).countP p = if q a = true then 1 else 0) (as : List α) :
    (as.flatMap f).countP p = as.countP q := by
  induction as with
  | nil => rfl
  | cons a rest ih => rw [List.flatMap_cons, List.countP_append, h, ih, List.countP_cons,
      Nat.add_comm]

theorem sum_map_ite (c : α → Bool) (g : α → Nat) (as : List α) :
    (as.map fun a => if c a = true then g a else 0).sum = ((as.filter c).map g).sum := by
  induction as with
  | nil => rfl
  | cons a rest ih =>
      by_cases ha : c a = true
      · simp [ha, ih]
      · simp [ha, ih]

end Counting

/-! ## The passes -/

/-- The passes of a validation, in their order. -/
inductive ValidationPass where
  | tables
  | columns
  | relationships
  | references
  deriving DecidableEq, Repr

namespace Issue

/-- The pass that finds an issue; none where it is no error of a schema. -/
def pass? : Issue → Option ValidationPass
  | duplicateEntityId .. | duplicateEntityName .. | invalidEntityName .. => some .tables
  | duplicateFieldId .. | emptyFieldName .. | duplicateFieldName .. | missingPrimaryKey .. =>
    some .columns
  | duplicateRelationshipId .. | missingEntity .. | missingField .. => some .relationships
  | foreignKeyWithoutReference .. | unresolvedReference .. => some .references
  | foreignKeyMismatch .. | nameWarning .. => none

/-- The label of the table whose columns a pass goes over when it finds an issue. -/
def table? : Issue → Option String
  | duplicateFieldId table _ | emptyFieldName table _ | duplicateFieldName table _
  | missingPrimaryKey table | foreignKeyWithoutReference table _ | unresolvedReference table .. =>
    some table
  | _ => none

/-- Whether an issue is the report that tables share a name, by its key. -/
def repeatsTable (key : List Char) : Issue → Bool
  | duplicateEntityName name => nameKey name == key
  | _ => false

/-- Whether an issue is the report that columns of a table share a name, by its key. -/
def repeatsColumn (table : String) (key : List Char) : Issue → Bool
  | duplicateFieldName entity name => entity == table && nameKey name == key
  | _ => false

/-- Whether an issue is the report that an end of a relationship is not there. -/
def dangles (id : RelationshipId) (side : RelationshipEnd) : Issue → Bool
  | missingEntity relationship at' _ | missingField relationship at' _ _ =>
    relationship == id && at' == side
  | _ => false

end Issue

namespace Validator

variable {v : Validator} {s : Schema} {issue : Issue} {pass : ValidationPass} {p : Issue → Bool}

/-- What a pass finds. -/
def passErrors (v : Validator) (s : Schema) : ValidationPass → List Issue
  | .tables => flatMapAfter v.entityErrors [] s.entities
  | .columns => s.entities.flatMap columnErrors
  | .relationships => flatMapAfter (relationshipErrors s) [] s.relationships
  | .references => s.entities.flatMap fun e => e.fields.flatMap (referenceErrors s e)

theorem pass?_of_mem_entityErrors {before : List Entity} {e : Entity}
    (h : issue ∈ v.entityErrors before e) : issue.pass? = some .tables := by
  simp only [entityErrors, List.mem_append, List.mem_ite_nil_right, List.mem_singleton,
    List.mem_map] at h
  rcases h with (⟨-, rfl⟩ | ⟨fault, -, rfl⟩) | ⟨-, rfl⟩ <;> rfl

theorem pass?_of_mem_columnErrors {e : Entity} (h : issue ∈ columnErrors e) :
    issue.pass? = some .columns ∧ issue.table? = some e.label := by
  simp only [columnErrors, List.mem_append, List.mem_ite_nil_right, List.mem_singleton] at h
  rcases h with h | ⟨-, rfl⟩
  · obtain ⟨front, f, back, -, h⟩ := mem_flatMapAfter.1 h
    simp only [fieldErrors, List.mem_append, List.mem_ite_nil_right, List.mem_singleton] at h
    rcases h with ⟨-, rfl⟩ | h
    · exact ⟨rfl, rfl⟩
    · split at h
      · rw [List.mem_singleton.1 h]
        exact ⟨rfl, rfl⟩
      · simp only [List.mem_ite_nil_right, List.mem_singleton] at h
        rw [h.2]
        exact ⟨rfl, rfl⟩
  · exact ⟨rfl, rfl⟩

theorem pass?_of_mem_endErrors {r : Relationship} {side : RelationshipEnd}
    (h : issue ∈ endErrors s r side) : issue.pass? = some .relationships := by
  rw [endErrors] at h
  split at h
  · rw [List.mem_singleton.1 h]
    rfl
  · simp only [List.mem_ite_nil_left, List.mem_singleton] at h
    rw [h.2]
    rfl

theorem pass?_of_mem_relationshipErrors {before : List Relationship} {r : Relationship}
    (h : issue ∈ relationshipErrors s before r) : issue.pass? = some .relationships := by
  simp only [relationshipErrors, List.mem_append, List.mem_ite_nil_right, List.mem_singleton] at h
  rcases h with (⟨-, rfl⟩ | h) | h
  · rfl
  · exact pass?_of_mem_endErrors h
  · exact pass?_of_mem_endErrors h

theorem pass?_of_mem_referenceErrors {e : Entity}
    (h : issue ∈ e.fields.flatMap (referenceErrors s e)) :
    issue.pass? = some .references ∧ issue.table? = some e.label := by
  obtain ⟨f, -, h⟩ := List.mem_flatMap.1 h
  rw [referenceErrors, List.mem_ite_nil_right] at h
  obtain ⟨-, h⟩ := h
  split at h
  · rw [List.mem_singleton.1 h]
    exact ⟨rfl, rfl⟩
  · simp only [List.mem_ite_nil_left, List.mem_singleton] at h
    rw [h.2]
    exact ⟨rfl, rfl⟩

/-- The kind of an issue tells the pass that finds it. -/
theorem pass?_of_mem (h : issue ∈ v.passErrors s pass) : issue.pass? = some pass := by
  cases pass with
  | tables =>
      obtain ⟨front, e, back, -, h⟩ := mem_flatMapAfter.1 h
      exact pass?_of_mem_entityErrors h
  | columns =>
      obtain ⟨e, -, h⟩ := List.mem_flatMap.1 h
      exact (pass?_of_mem_columnErrors h).1
  | relationships =>
      obtain ⟨front, r, back, -, h⟩ := mem_flatMapAfter.1 h
      exact pass?_of_mem_relationshipErrors h
  | references =>
      obtain ⟨e, -, h⟩ := List.mem_flatMap.1 h
      exact (pass?_of_mem_referenceErrors h).1

/-- Issues of one kind are counted in the pass that finds them. -/
theorem countP_errors (pass : ValidationPass)
    (hp : ∀ issue, p issue = true → issue.pass? = some pass) :
    (v.errors s).countP p = (v.passErrors s pass).countP p := by
  have hother : ∀ other, other ≠ pass → (v.passErrors s other).countP p = 0 := by
    intro other hne
    refine List.countP_eq_zero.2 fun issue hmem hissue => hne ?_
    exact Option.some.inj ((pass?_of_mem hmem).symm.trans (hp issue hissue))
  have hsplit : v.errors s = v.passErrors s .tables ++ v.passErrors s .columns ++
      v.passErrors s .relationships ++ v.passErrors s .references := rfl
  rw [hsplit, List.countP_append, List.countP_append, List.countP_append]
  cases pass with
  | tables => simp [hother .columns, hother .relationships, hother .references]
  | columns => simp [hother .tables, hother .relationships, hother .references]
  | relationships => simp [hother .tables, hother .columns, hother .references]
  | references => simp [hother .tables, hother .columns, hother .relationships]

theorem count_errors (pass : ValidationPass) (h : issue.pass? = some pass) :
    (v.errors s).count issue = (v.passErrors s pass).countP (· == issue) := by
  rw [List.count]
  exact countP_errors pass fun other hother => by rw [beq_iff_eq.1 hother, h]

theorem mem_errors (pass : ValidationPass) (h : issue.pass? = some pass) :
    issue ∈ v.errors s ↔ issue ∈ v.passErrors s pass := by
  rw [← List.count_pos_iff, ← List.count_pos_iff, count_errors pass h, List.count]

/-! ## The counts -/

/-- A count over the tables with a label. -/
def totalAt (s : Schema) (table : String) (count : Entity → Nat) : Nat :=
  ((s.entities.filter (·.label == table)).map count).sum

/-- The errors of a schema, each as often as the schema has the defect. -/
structure Reports (v : Validator) (s : Schema) (errors : List Issue) : Prop where
  /-- Each repetition of an id. -/
  entityIds : ∀ id, errors.count (.duplicateEntityId id) = s.entities.countP (·.id == id) - 1
  nameFaults : ∀ table fault, errors.count (.invalidEntityName table fault) =
    totalAt s table fun e => (checkName e.name v.level v.maxLength).errors.count fault
  /-- A name once, however often it is repeated. -/
  entityNames : ∀ key, errors.countP (·.repeatsTable key) =
    if key ≠ [] ∧ 2 ≤ s.entities.countP (nameKey ·.name == key) then 1 else 0
  /-- It is reported as the second table spells it. -/
  entityName : ∀ name, .duplicateEntityName name ∈ errors → ∃ front e back,
    s.entities = front ++ e :: back ∧ e.name = name ∧
      front.countP (nameKey ·.name == nameKey name) = 1
  fieldIds : ∀ table id, errors.count (.duplicateFieldId table id) =
    totalAt s table fun e => e.fields.countP (·.id == id) - 1
  blankNames : ∀ table id, errors.count (.emptyFieldName table id) =
    totalAt s table fun e => e.fields.countP fun f => f.id == id && (nameKey f.name).isEmpty
  fieldNames : ∀ table key, errors.countP (·.repeatsColumn table key) =
    totalAt s table fun e =>
      if key ≠ [] ∧ 2 ≤ e.fields.countP (nameKey ·.name == key) then 1 else 0
  fieldName : ∀ table name, .duplicateFieldName table name ∈ errors → ∃ e ∈ s.entities,
    e.label = table ∧ ∃ front f back, e.fields = front ++ f :: back ∧ f.name = name ∧
      front.countP (nameKey ·.name == nameKey name) = 1
  primaryKeys : ∀ table, errors.count (.missingPrimaryKey table) =
    s.entities.countP fun e => e.label == table && e.primaryKeys.isEmpty
  relationshipIds : ∀ id, errors.count (.duplicateRelationshipId id) =
    s.relationships.countP (·.id == id) - 1
  /-- Each end of a relationship that is not there, as one of two kinds of issues. -/
  ends : ∀ id side, errors.countP (·.dangles id side) =
    s.relationships.countP fun r => r.id == id && (s.endpoint? (side.of r)).isNone
  missingEntities : ∀ id side entity, errors.count (.missingEntity id side entity) =
    s.relationships.countP fun r =>
      r.id == id && (side.of r).entity == entity && (s.entity? entity).isNone
  missingFields : ∀ id side table field, errors.count (.missingField id side table field) =
    s.relationships.countP fun r => r.id == id && (side.of r).field == field &&
      (s.entity? (side.of r).entity).any fun e => e.label == table && (e.field? field).isNone
  withoutReference : ∀ table field, errors.count (.foreignKeyWithoutReference table field) =
    totalAt s table fun e => e.fields.countP fun f =>
      f.label == field && f.isForeignKey && f.references.isNone
  unresolved : ∀ table field target, errors.count (.unresolvedReference table field target) =
    totalAt s table fun e => e.fields.countP fun f =>
      f.label == field && f.isForeignKey && f.references == some target && !hasColumn s target
  /-- Nothing else. -/
  others : ∀ issue ∈ errors, issue.pass?.isSome

theorem countP_entityErrors (before : List Entity) (e : Entity) :
    (v.entityErrors before e).countP p =
      (if before.any (·.id == e.id) = true ∧ p (.duplicateEntityId e.id) = true then 1 else 0) +
      (v.checkEntityName e).errors.countP (fun fault => p (.invalidEntityName e.label fault)) +
      if (nameKey e.name ≠ [] ∧ before.countP (nameKey ·.name == nameKey e.name) = 1) ∧
        p (.duplicateEntityName e.name) = true then 1 else 0 := by
  rw [entityErrors, List.countP_append, List.countP_append, List.countP_map,
    countP_ite_singleton, countP_ite_singleton]
  simp [Function.comp_def]

theorem countP_fieldErrors (table : String) (before : List Field) (f : Field) :
    (fieldErrors table before f).countP p =
      (if before.any (·.id == f.id) = true ∧ p (.duplicateFieldId table f.id) = true then 1
        else 0) +
      (if nameKey f.name = [] ∧ p (.emptyFieldName table f.id) = true then 1 else 0) +
      if (nameKey f.name ≠ [] ∧ before.countP (nameKey ·.name == nameKey f.name) = 1) ∧
        p (.duplicateFieldName table f.name) = true then 1 else 0 := by
  rw [fieldErrors, List.countP_append, countP_ite_singleton]
  by_cases hblank : nameKey f.name = []
  · simp [hblank, List.countP_singleton]
  · simp [hblank, countP_ite_singleton]

/-- What is found at each table, counted over the tables with a label. -/
theorem countP_flatMap_totalAt {g : Entity → List Issue} {table : String} {count : Entity → Nat}
    (hg : ∀ e, ∀ issue ∈ g e, issue.table? = some e.label)
    (hp : ∀ issue, p issue = true → issue.table? = some table)
    (h : ∀ e, e.label = table → (g e).countP p = count e) :
    (s.entities.flatMap g).countP p = totalAt s table count := by
  rw [List.countP_flatMap, totalAt, ← sum_map_ite]
  congr 1
  refine List.map_congr_left fun e _ => ?_
  by_cases hlabel : e.label = table
  · simp [h e hlabel, hlabel]
  · have hnone : (g e).countP p = 0 := List.countP_eq_zero.2 fun issue hmem hissue =>
      hlabel (Option.some.inj ((hg e issue hmem).symm.trans (hp issue hissue)))
    simp [hnone, hlabel]

theorem countP_columnErrors (e : Entity) :
    (columnErrors e).countP p =
      (flatMapAfter (fieldErrors e.label) [] e.fields).countP p +
      if e.primaryKeys.isEmpty = true ∧ p (.missingPrimaryKey e.label) = true then 1 else 0 := by
  rw [columnErrors, List.countP_append, countP_ite_singleton]

theorem countP_endErrors (r : Relationship) (side : RelationshipEnd) :
    (endErrors s r side).countP p =
      match s.entity? (side.of r).entity with
      | none => if p (.missingEntity r.id side (side.of r).entity) = true then 1 else 0
      | some e =>
        if (e.field? (side.of r).field).isNone = true ∧
          p (.missingField r.id side e.label (side.of r).field) = true then 1 else 0 := by
  rw [endErrors]
  cases s.entity? (side.of r).entity with
  | none => simp [List.countP_singleton]
  | some e =>
      dsimp only
      cases e.field? (side.of r).field with
      | none => simp [List.countP_singleton]
      | some f => simp

theorem countP_relationshipErrors (before : List Relationship) (r : Relationship) :
    (relationshipErrors s before r).countP p =
      (if before.any (·.id == r.id) = true ∧ p (.duplicateRelationshipId r.id) = true then 1
        else 0) + (endErrors s r .parent).countP p + (endErrors s r .child).countP p := by
  rw [relationshipErrors, List.countP_append, List.countP_append, countP_ite_singleton]

theorem countP_referenceErrors (e : Entity) (f : Field) :
    (referenceErrors s e f).countP p =
      if f.isForeignKey = true then
        match f.references with
        | none => if p (.foreignKeyWithoutReference e.label f.label) = true then 1 else 0
        | some target =>
          if hasColumn s target = false ∧ p (.unresolvedReference e.label f.label target) = true
          then 1 else 0
      else 0 := by
  rw [referenceErrors]
  by_cases hkey : f.isForeignKey = true
  · rw [if_pos hkey, if_pos hkey]
    cases f.references with
    | none => simp [List.countP_singleton]
    | some target =>
        dsimp only
        cases hasColumn s target with
        | true => simp
        | false => simp [List.countP_singleton]
  · simp [hkey]

theorem countP_columns {table : String} {count : Entity → Nat}
    (hp : ∀ issue, p issue = true → issue.pass? = some .columns ∧ issue.table? = some table)
    (h : ∀ e, e.label = table → (columnErrors e).countP p = count e) :
    (v.errors s).countP p = totalAt s table count :=
  (countP_errors .columns fun issue hissue => (hp issue hissue).1).trans
    (countP_flatMap_totalAt (fun _ _ hmem => (pass?_of_mem_columnErrors hmem).2)
      (fun issue hissue => (hp issue hissue).2) h)

theorem countP_references {table : String} {q : Entity → Field → Bool}
    (hp : ∀ issue, p issue = true → issue.pass? = some .references ∧ issue.table? = some table)
    (h : ∀ e f, e.label = table →
      (referenceErrors s e f).countP p = if q e f = true then 1 else 0) :
    (v.errors s).countP p = totalAt s table fun e => e.fields.countP (q e) :=
  (countP_errors .references fun issue hissue => (hp issue hissue).1).trans
    (countP_flatMap_totalAt (fun _ _ hmem => (pass?_of_mem_referenceErrors hmem).2)
      (fun issue hissue => (hp issue hissue).2)
      fun e hlabel => countP_flatMap_each (fun f => h e f hlabel) _)

theorem countP_dangles (r : Relationship) (at' side : RelationshipEnd) (id : RelationshipId) :
    (endErrors s r at').countP (·.dangles id side) =
      if (r.id == id && at' == side && (s.endpoint? (at'.of r)).isNone) = true then 1 else 0 := by
  rw [countP_endErrors, Schema.endpoint?]
  cases s.entity? (at'.of r).entity with
  | none => simp [Issue.dangles]
  | some e =>
      cases hfield : e.field? (at'.of r).field with
      | none => simp [Issue.dangles, hfield]
      | some f => simp [hfield]

theorem countP_missingEntity (r : Relationship) (at' side : RelationshipEnd) (id : RelationshipId)
    (entity : EntityId) : (endErrors s r at').countP (· == .missingEntity id side entity) =
      if (r.id == id && at' == side && (at'.of r).entity == entity &&
        (s.entity? entity).isNone) = true then 1 else 0 := by
  rw [countP_endErrors]
  by_cases hentity : (at'.of r).entity = entity
  · rw [hentity]
    cases s.entity? entity with
    | none => simp
    | some e => simp
  · cases s.entity? (at'.of r).entity with
    | none => simp [hentity]
    | some e => simp [hentity]

theorem countP_missingField (r : Relationship) (at' side : RelationshipEnd) (id : RelationshipId)
    (table : String) (field : FieldId) :
    (endErrors s r at').countP (· == .missingField id side table field) =
      if (r.id == id && at' == side && (at'.of r).field == field &&
        (s.entity? (at'.of r).entity).any fun e =>
          e.label == table && (e.field? field).isNone) = true then 1 else 0 := by
  rw [countP_endErrors]
  cases s.entity? (at'.of r).entity with
  | none => simp
  | some e =>
      by_cases hfield : (at'.of r).field = field
      · simp [hfield, and_assoc, and_comm, and_left_comm]
      · simp [hfield]

/-- A name is reported as repeated at the second table with it. -/
theorem exists_of_duplicateEntityName {name : String} (h : .duplicateEntityName name ∈ v.errors s) :
    ∃ front e back, s.entities = front ++ e :: back ∧ e.name = name ∧
      front.countP (nameKey ·.name == nameKey name) = 1 := by
  rw [mem_errors .tables rfl] at h
  obtain ⟨front, e, back, hlist, h⟩ := mem_flatMapAfter.1 h
  simp only [entityErrors, List.mem_append, List.mem_ite_nil_right, List.mem_singleton,
    List.mem_map, Bool.and_eq_true, beq_iff_eq, Issue.duplicateEntityName.injEq, reduceCtorEq,
    and_false, exists_false, or_self, false_or] at h
  obtain ⟨⟨-, hone⟩, rfl⟩ := h
  exact ⟨front, e, back, hlist, rfl, by simpa using hone⟩

/-- A name is reported as repeated at the second field with it. -/
theorem exists_of_duplicateFieldName {table name : String}
    (h : .duplicateFieldName table name ∈ v.errors s) : ∃ e ∈ s.entities, e.label = table ∧
      ∃ front f back, e.fields = front ++ f :: back ∧ f.name = name ∧
        front.countP (nameKey ·.name == nameKey name) = 1 := by
  rw [mem_errors .columns rfl] at h
  obtain ⟨e, he, h⟩ := List.mem_flatMap.1 h
  have hlabel : some table = some e.label := (pass?_of_mem_columnErrors h).2
  simp only [columnErrors, List.mem_append, List.mem_ite_nil_right, List.mem_singleton,
    reduceCtorEq, and_false, or_false] at h
  obtain ⟨front, f, back, hlist, h⟩ := mem_flatMapAfter.1 h
  by_cases hblank : nameKey f.name = []
  · simp [fieldErrors, hblank] at h
  · simp only [fieldErrors, List.isEmpty_iff, hblank, if_false, List.mem_append,
      List.mem_ite_nil_right, List.mem_singleton, beq_iff_eq, Issue.duplicateFieldName.injEq,
      reduceCtorEq, and_false, false_or] at h
    obtain ⟨hone, -, rfl⟩ := h
    exact ⟨e, he, (Option.some.inj hlabel).symm, front, f, back, hlist, rfl, by simpa using hone⟩

/-- An error is found by a pass. -/
theorem isSome_pass?_of_mem_errors (h : issue ∈ v.errors s) : issue.pass?.isSome = true := by
  have hpass : ∃ pass, issue ∈ v.passErrors s pass := by
    simp only [errors, List.mem_append] at h
    rcases h with ((h | h) | h) | h
    · exact ⟨.tables, h⟩
    · exact ⟨.columns, h⟩
    · exact ⟨.relationships, h⟩
    · exact ⟨.references, h⟩
  obtain ⟨pass, hmem⟩ := hpass
  rw [pass?_of_mem hmem]
  rfl

theorem reports_errors (v : Validator) (s : Schema) : v.Reports s (v.errors s) := by
  constructor
  case entityIds =>
    intro id
    refine (count_errors .tables rfl).trans (countP_flatMapAfter_repeats _ id (fun _ _ => ?_) _)
    simp [countP_entityErrors]
  case nameFaults =>
    intro table fault
    rw [totalAt, ← sum_map_ite]
    refine (count_errors .tables rfl).trans (countP_flatMapAfter_sum (fun _ e => ?_) _)
    have hsame : ∀ other, (Issue.invalidEntityName table other == .invalidEntityName table fault) =
        (other == fault) := fun other => by simp [beq_eq_decide]
    by_cases hlabel : e.label = table
    · simp [countP_entityErrors, hlabel, checkEntityName, List.count, hsame]
    · simp [countP_entityErrors, hlabel]
  case entityNames =>
    intro key
    have htables : ∀ issue : Issue, issue.repeatsTable key = true →
        issue.pass? = some .tables := fun issue h => by
      cases issue <;> first | rfl | cases h
    refine (countP_errors .tables htables).trans ((countP_flatMapAfter_second
      (fun e : Entity => nameKey e.name) key (!·.isEmpty) (fun _ _ => ?_) _).trans ?_)
    · simp [countP_entityErrors, Issue.repeatsTable, and_assoc]
    · simp
  case entityName => exact fun name => exists_of_duplicateEntityName
  case fieldIds =>
    intro table id
    refine countP_columns (fun issue h => by rw [beq_iff_eq.1 h]; exact ⟨rfl, rfl⟩)
      fun e hlabel => ?_
    rw [countP_columnErrors,
      countP_flatMapAfter_repeats (fun f : Field => f.id) id fun _ _ => by
        simp [countP_fieldErrors, hlabel]]
    simp
  case blankNames =>
    intro table id
    refine countP_columns (fun issue h => by rw [beq_iff_eq.1 h]; exact ⟨rfl, rfl⟩)
      fun e hlabel => ?_
    rw [countP_columnErrors, countP_flatMapAfter_each
      (q := fun f : Field => f.id == id && (nameKey f.name).isEmpty) fun _ _ => by
        simp [countP_fieldErrors, hlabel, and_comm]]
    simp
  case fieldNames =>
    intro table key
    have hcolumns : ∀ issue : Issue, issue.repeatsColumn table key = true →
        issue.pass? = some .columns ∧ issue.table? = some table := fun issue h => by
      cases issue with
      | duplicateFieldName entity name =>
          rw [Issue.repeatsColumn, Bool.and_eq_true, beq_iff_eq] at h
          exact ⟨rfl, congrArg some h.1⟩
      | _ => cases h
    refine countP_columns hcolumns fun e hlabel => ?_
    rw [countP_columnErrors, countP_flatMapAfter_second (fun f : Field => nameKey f.name) key
      (!·.isEmpty) fun _ _ => by
        simp [countP_fieldErrors, hlabel, Issue.repeatsColumn, and_assoc]]
    simp [Issue.repeatsColumn]
  case fieldName => exact fun table name => exists_of_duplicateFieldName
  case primaryKeys =>
    intro table
    refine (count_errors .columns rfl).trans (countP_flatMap_each (fun e => ?_) _)
    rw [countP_columnErrors, countP_flatMapAfter_each (q := fun _ : Field => false) fun _ _ => by
        simp [countP_fieldErrors]]
    simp [and_comm]
  case relationshipIds =>
    intro id
    refine (count_errors .relationships rfl).trans
      (countP_flatMapAfter_repeats _ id (fun _ r => ?_) _)
    have hends : ∀ side, (endErrors s r side).countP (· == .duplicateRelationshipId id) = 0 := by
      intro side
      rw [countP_endErrors]
      split <;> simp
    simp [countP_relationshipErrors, hends]
  case ends =>
    intro id side
    have hrelationships : ∀ issue : Issue, issue.dangles id side = true →
        issue.pass? = some .relationships := fun issue h => by
      cases issue <;> first | rfl | cases h
    refine (countP_errors .relationships hrelationships).trans
      (countP_flatMapAfter_each (fun _ r => ?_) _)
    rw [countP_relationshipErrors, countP_dangles, countP_dangles]
    cases side <;> simp [Issue.dangles]
  case missingEntities =>
    intro id side entity
    refine (count_errors .relationships rfl).trans
      (countP_flatMapAfter_each (fun _ r => ?_) _)
    rw [countP_relationshipErrors, countP_missingEntity, countP_missingEntity]
    cases side <;> simp
  case missingFields =>
    intro id side table field
    refine (count_errors .relationships rfl).trans
      (countP_flatMapAfter_each (fun _ r => ?_) _)
    rw [countP_relationshipErrors, countP_missingField, countP_missingField]
    cases side <;> simp
  case withoutReference =>
    intro table field
    refine countP_references (fun issue h => by rw [beq_iff_eq.1 h]; exact ⟨rfl, rfl⟩)
      fun e f hlabel => ?_
    rw [countP_referenceErrors]
    cases f.references with
    | none => simp [hlabel, and_comm, ite_and]
    | some target => simp
  case unresolved =>
    intro table field target
    refine countP_references (fun issue h => by rw [beq_iff_eq.1 h]; exact ⟨rfl, rfl⟩)
      fun e f hlabel => ?_
    rw [countP_referenceErrors]
    cases f.references with
    | none => simp
    | some other =>
        by_cases hkey : f.isForeignKey = true
        · by_cases hother : other = target
          · simp [hkey, hother, hlabel, and_comm]
          · simp [hother]
        · simp [hkey]
  case others => exact fun issue => isSome_pass?_of_mem_errors

end Validator

end EntityRelation
