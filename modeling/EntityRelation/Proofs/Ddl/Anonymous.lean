import EntityRelation.Proofs.Ddl.ImportedScript
import EntityRelation.Proofs.Schema.Placement

/-!
# Tables apart from where they stand

The index of a table goes into its ids and its position, and into nothing else. Two tables under
construction are alike when they differ in nothing but that (`TableDraft.Alike`); the clauses of a
definition keep tables alike, whatever their indices. `TableDraft.anonymous` is one table out of
all those that are alike, so equations can be stated of it.
-/

namespace EntityRelation

namespace Entity

/-- The entity without its ids and its position. -/
def anonymous (e : Entity) : Entity :=
  ⟨⟨""⟩, e.name, e.fields.map Field.withoutId, .origin⟩

@[simp] theorem anonymous_name (e : Entity) : e.anonymous.name = e.name := rfl

@[simp] theorem anonymous_fields (e : Entity) :
    e.anonymous.fields = e.fields.map Field.withoutId := rfl

theorem fieldNamed?_anonymous (e : Entity) (name : String) :
    e.anonymous.fieldNamed? name = (e.fieldNamed? name).map Field.withoutId := by
  rw [fieldNamed?, anonymous_fields, List.find?_map]
  rfl

theorem primaryKeys_anonymous (e : Entity) :
    e.anonymous.primaryKeys = e.primaryKeys.map Field.withoutId := by
  rw [primaryKeys, anonymous_fields, List.filter_map]
  rfl

end Entity

namespace Ddl

/-- The pending foreign key without the id of its table. -/
def PendingKey.anonymous (key : PendingKey) : PendingKey :=
  { key with child := ⟨""⟩ }

namespace TableDraft

/-- The table under construction without ids and position. -/
def anonymous (d : TableDraft) : TableDraft :=
  ⟨d.entity.anonymous, d.pendingKeys.map PendingKey.anonymous, d.warnings⟩

/-- Two tables under construction that differ in nothing but ids and positions. -/
structure Alike (d d' : TableDraft) : Prop where
  name : d.entity.name = d'.entity.name
  fields : d.entity.fields.map Field.withoutId = d'.entity.fields.map Field.withoutId
  keys : d.pendingKeys.map PendingKey.anonymous = d'.pendingKeys.map PendingKey.anonymous
  warnings : d.warnings = d'.warnings

namespace Alike

variable {d d' : TableDraft}

theorem anonymous_eq (h : d.Alike d') : d.anonymous = d'.anonymous := by
  rw [anonymous, anonymous, Entity.anonymous, Entity.anonymous, h.name, h.fields, h.keys,
    h.warnings]

theorem isSome_fieldNamed? (h : d.Alike d') (name : String) :
    (d.entity.fieldNamed? name).isSome = (d'.entity.fieldNamed? name).isSome := by
  have hentity : d.entity.anonymous = d'.entity.anonymous := by
    rw [Entity.anonymous, Entity.anonymous, h.name, h.fields]
  have hfound := congrArg (fun e => (Entity.fieldNamed? e name).isSome) hentity
  simpa [Entity.fieldNamed?_anonymous] using hfound

theorem isEmpty_fields (h : d.Alike d') :
    d.entity.fields.isEmpty = d'.entity.fields.isEmpty := by
  simpa using congrArg List.isEmpty h.fields

/-- A warning that names the table is the same for both. -/
theorem warn (h : d.Alike d') (line : Nat) (cause : String → WarningCause) :
    (d.warn line (cause d.entity.name)).Alike (d'.warn line (cause d'.entity.name)) := by
  refine ⟨h.name, h.fields, h.keys, ?_⟩
  rw [TableDraft.warn, TableDraft.warn, h.warnings, h.name]

theorem addKey (h : d.Alike d') {key key' : PendingKey} (hkey : key.anonymous = key'.anonymous) :
    (d.addKey key).Alike (d'.addKey key') := by
  refine ⟨h.name, h.fields, ?_, h.warnings⟩
  rw [TableDraft.addKey, TableDraft.addKey, List.map_append, List.map_append, h.keys,
    List.map_singleton, List.map_singleton, hkey]

theorem pushColumn (h : d.Alike d') (index index' : Nat) (column : Column) :
    (d.pushColumn index column).Alike (d'.pushColumn index' column) := by
  refine ⟨h.name, ?_, h.keys, h.warnings⟩
  rw [TableDraft.pushColumn, TableDraft.pushColumn, List.map_append, List.map_append, h.fields]
  rfl

theorem updateNamed (h : d.Alike d') (name : String) {f : Field → Field}
    (hf : ∀ field, (f field).withoutId = f field.withoutId) :
    (d.updateNamed name f).Alike (d'.updateNamed name f) := by
  refine ⟨h.name, ?_, h.keys, h.warnings⟩
  have hupdate := fun fields : List Field => map_updateFirst_comm
    (fun field => Text.sameName field.name name) f Field.withoutId (fun _ => rfl)
    (fun field => hf field) fields
  rw [TableDraft.updateNamed, TableDraft.updateNamed, hupdate, hupdate, h.fields]

theorem foldl {β : Type} {step step' : TableDraft → β → TableDraft}
    (hstep : ∀ {d d' : TableDraft}, d.Alike d' → ∀ b, (step d b).Alike (step' d' b))
    (h : d.Alike d') (bs : List β) : (bs.foldl step d).Alike (bs.foldl step' d') := by
  induction bs generalizing d d' with
  | nil => exact h
  | cons b rest ih => exact ih (hstep h b)

/-! ## The readers of clauses -/

theorem addColumn (h : d.Alike d') (index index' line : Nat) (clause : Clause) :
    (d.addColumn index line clause).Alike (d'.addColumn index' line clause) := by
  rw [TableDraft.addColumn, TableDraft.addColumn]
  cases Column.ofClause clause with
  | error fault => exact h.warn line (.columnSkipped · fault)
  | ok column =>
      simp only [h.isSome_fieldNamed?]
      split
      · exact h.warn line (.duplicateColumn · column.name)
      · cases column.reference with
        | none => exact h.pushColumn index index' column
        | some target =>
            have hkey : (d.addKey ⟨d.entity.id, column.name, target.table, target.column, 0,
                line⟩).Alike (d'.addKey ⟨d'.entity.id, column.name, target.table, target.column, 0,
                line⟩) := h.addKey rfl
            exact hkey.pushColumn index index' column

theorem markPrimaryKey (h : d.Alike d') (line : Nat) (name : String) :
    (d.markPrimaryKey line name).Alike (d'.markPrimaryKey line name) := by
  rw [TableDraft.markPrimaryKey, TableDraft.markPrimaryKey, h.isSome_fieldNamed?]
  split
  · exact h.updateNamed name fun _ => rfl
  · exact h.warn line (.unknownKeyColumn · name)

/-- The keys of a clause are the same but for the table that they belong to. -/
theorem addKeys (h : d.Alike d') {keys keys' : List PendingKey}
    (hkeys : keys.map PendingKey.anonymous = keys'.map PendingKey.anonymous) :
    (keys.foldl TableDraft.addKey d).Alike (keys'.foldl TableDraft.addKey d') := by
  induction keys generalizing keys' d d' with
  | nil =>
      obtain rfl := List.map_eq_nil_iff.1 hkeys.symm
      exact h
  | cons key rest ih =>
      cases keys' with
      | nil => cases hkeys
      | cons key' rest' =>
          obtain ⟨hkey, hrest⟩ := List.cons.inj hkeys
          exact ih (h.addKey hkey) hrest

theorem applyConstraint (h : d.Alike d') (line : Nat) (constraint : TableConstraint) :
    (d.applyConstraint line constraint).Alike (d'.applyConstraint line constraint) := by
  cases constraint with
  | primaryKey columns => exact foldl (fun h name => h.markPrimaryKey line name) h columns
  | foreignKey columns table referenced =>
      cases table with
      | none => exact h.warn line .foreignKeyWithoutTable
      | some table =>
          refine h.addKeys ?_
          rw [keysOf, keysOf, map_mapIdx, map_mapIdx]
          rfl
  | unique columns =>
      cases columns with
      | nil => exact h
      | cons name more =>
          cases more with
          | nil => exact h.updateNamed name fun _ => rfl
          | cons _ _ => exact h
  | ignored => exact h

theorem addColumns (h : d.Alike d') (index index' line : Nat) (clauses : List Clause) :
    (d.addColumns index line clauses).Alike (d'.addColumns index' line clauses) :=
  foldl (fun h clause => h.addColumn index index' line clause) h _

theorem applyConstraints (h : d.Alike d') (line : Nat) (clauses : List Clause) :
    (d.applyConstraints line clauses).Alike (d'.applyConstraints line clauses) :=
  foldl (fun h constraint => h.applyConstraint line constraint) h _

end Alike

end TableDraft

end Ddl

end EntityRelation
