import EntityRelation.Proofs.Ddl.Accounting

/-!
# Drafts that gain a foreign key

A foreign key stays pending until all tables are known, and no statement looks at the keys that are
pending. So a draft that has gained a key goes on just as it would have without
(`Draft.Gains.add`): it has the same tables, and all other keys in the same order.
-/

namespace EntityRelation

/-- Names that differ in ASCII case stand for the same column. -/
theorem Entity.fieldNamed?_congr {name name' : String} (h : Text.sameName name name' = true)
    (e : Entity) : e.fieldNamed? name = e.fieldNamed? name' := by
  rw [fieldNamed?, fieldNamed?]
  refine List.find?_congr fun f _ => ?_
  simp only [Text.sameName, beq_iff_eq] at h ⊢
  rw [h]

/-- Names that differ in ASCII case stand for the same table. -/
theorem Schema.entityNamed?_congr {name name' : String} (h : Text.sameName name name' = true)
    (s : Schema) : s.entityNamed? name = s.entityNamed? name' := by
  rw [entityNamed?, entityNamed?]
  refine List.find?_congr fun e _ => ?_
  simp only [Text.sameName, beq_iff_eq] at h ⊢
  rw [h]

namespace Ddl

namespace PendingKey

/-- Whether the key is a foreign key of a column to a target. -/
def isTo (child : EntityId) (column : String) (target : ForeignTarget) (key : PendingKey) : Bool :=
  key.child == child && Text.sameName key.column column && key.parentTable == target.table &&
    key.parentColumn == target.column && key.keyIndex == 0

/-- Two lists of keys that differ in `own` ones, of which there are some in the second list. -/
structure Gained (own : PendingKey → Bool) (keys keys' : List PendingKey) : Prop where
  others : keys'.filter (!own ·) = keys.filter (!own ·)
  gained : ∃ key ∈ keys', own key = true

variable {own : PendingKey → Bool} {keys keys' keys'' : List PendingKey}

theorem Gained.append (h : Gained own keys keys') (more : List PendingKey) :
    Gained own (keys ++ more) (keys' ++ more) := by
  obtain ⟨key, hkey, hown⟩ := h.gained
  refine ⟨?_, key, List.mem_append_left more hkey, hown⟩
  rw [List.filter_append, List.filter_append, h.others]

/-- More keys before do not matter. -/
theorem Gained.append_left (h : Gained own keys keys') (more : List PendingKey) :
    Gained own (more ++ keys) (more ++ keys') := by
  obtain ⟨key, hkey, hown⟩ := h.gained
  refine ⟨?_, key, List.mem_append_right more hkey, hown⟩
  rw [List.filter_append, List.filter_append, h.others]

theorem Gained.trans (h : Gained own keys keys') (h' : Gained own keys' keys'') :
    Gained own keys keys'' :=
  ⟨h'.others.trans h.others, h'.gained⟩

theorem gained_concat (keys : List PendingKey) {key : PendingKey} (hown : own key = true) :
    Gained own keys (keys ++ [key]) := by
  refine ⟨?_, key, List.mem_append_right keys List.mem_cons_self, hown⟩
  rw [List.filter_append, List.filter_singleton, hown]
  exact List.append_nil _

end PendingKey

open PendingKey

variable {own : PendingKey → Bool}

/-! ## Tables -/

/-- Two tables under construction that differ in warnings and in `own` keys. -/
structure TableDraft.Gains (own : PendingKey → Bool) (d d' : TableDraft) : Prop where
  entity : d'.entity = d.entity
  keys : Gained own d.pendingKeys d'.pendingKeys

namespace TableDraft

variable {d d' : TableDraft} {index line : Nat}

namespace Gains

theorem warn (h : d.Gains own d') (line : Nat) (cause : String → WarningCause) :
    (d.warn line (cause d.entity.name)).Gains own (d'.warn line (cause d'.entity.name)) :=
  ⟨h.entity, h.keys⟩

theorem addKey (h : d.Gains own d') (key : PendingKey) : (d.addKey key).Gains own (d'.addKey key) :=
  ⟨h.entity, h.keys.append [key]⟩

theorem pushColumn (h : d.Gains own d') (index : Nat) (column : Column) :
    (d.pushColumn index column).Gains own (d'.pushColumn index column) := by
  refine ⟨?_, h.keys⟩
  rw [TableDraft.pushColumn, TableDraft.pushColumn, h.entity]

theorem updateNamed (h : d.Gains own d') (name : String) (f : Field → Field) :
    (d.updateNamed name f).Gains own (d'.updateNamed name f) := by
  refine ⟨?_, h.keys⟩
  rw [TableDraft.updateNamed, TableDraft.updateNamed, h.entity]

theorem foldl {β : Type} {step : TableDraft → β → TableDraft}
    (hstep : ∀ {d d' : TableDraft}, d.Gains own d' → ∀ b, (step d b).Gains own (step d' b))
    (h : d.Gains own d') (bs : List β) : (bs.foldl step d).Gains own (bs.foldl step d') := by
  induction bs generalizing d d' with
  | nil => exact h
  | cons b rest ih => exact ih (hstep h b)

/-! ### The readers of clauses -/

theorem addColumn (h : d.Gains own d') (index line : Nat) (clause : Clause) :
    (d.addColumn index line clause).Gains own (d'.addColumn index line clause) := by
  rw [TableDraft.addColumn, TableDraft.addColumn]
  cases Column.ofClause clause with
  | error fault => exact h.warn line (.columnSkipped · fault)
  | ok column =>
      simp only [h.entity]
      split
      · exact ⟨h.entity, h.keys⟩
      · cases column.reference with
        | none => exact h.pushColumn index column
        | some target => exact (h.addKey _).pushColumn index column

theorem markPrimaryKey (h : d.Gains own d') (line : Nat) (name : String) :
    (d.markPrimaryKey line name).Gains own (d'.markPrimaryKey line name) := by
  rw [TableDraft.markPrimaryKey, TableDraft.markPrimaryKey, h.entity]
  split
  · exact h.updateNamed name _
  · exact ⟨h.entity, h.keys⟩

theorem applyConstraint (h : d.Gains own d') (line : Nat) (constraint : TableConstraint) :
    (d.applyConstraint line constraint).Gains own (d'.applyConstraint line constraint) := by
  cases constraint with
  | primaryKey columns => exact foldl (fun h name => h.markPrimaryKey line name) h columns
  | foreignKey columns table referenced =>
      cases table with
      | none => exact h.warn line .foreignKeyWithoutTable
      | some table =>
          rw [TableDraft.applyConstraint, TableDraft.applyConstraint, h.entity]
          exact foldl (fun h key => h.addKey key) h _
  | unique columns =>
      cases columns with
      | nil => exact h
      | cons name more =>
          cases more with
          | nil => exact h.updateNamed name _
          | cons _ _ => exact h
  | ignored => exact h

theorem addColumns (h : d.Gains own d') (index line : Nat) (clauses : List Clause) :
    (d.addColumns index line clauses).Gains own (d'.addColumns index line clauses) :=
  foldl (fun h clause => h.addColumn index line clause) h _

theorem applyConstraints (h : d.Gains own d') (line : Nat) (clauses : List Clause) :
    (d.applyConstraints line clauses).Gains own (d'.applyConstraints line clauses) :=
  foldl (fun h constraint => h.applyConstraint line constraint) h _

theorem addAction (h : d.Gains own d') (index line : Nat) (action : Clause) :
    (d.addAction index line action).Gains own (d'.addAction index line action) := by
  rw [TableDraft.addAction, TableDraft.addAction]
  split
  · exact h
  · split
    · exact h.applyConstraint line _
    · exact h.addColumn index line _

theorem addActions (h : d.Gains own d') (index line : Nat) (actions : List Clause) :
    (actions.foldl (TableDraft.addAction index line) d).Gains own
      (actions.foldl (TableDraft.addAction index line) d') :=
  foldl (fun h action => h.addAction index line action) h actions

end Gains

/-! ### Clauses with a key more -/

variable {column : String} {target : ForeignTarget}

/-- A foreign key clause of one column leaves one key pending. -/
theorem gains_applyConstraint (d : TableDraft) (line : Nat) {name : String}
    (hname : Text.sameName name column = true) :
    d.Gains (isTo d.entity.id column target)
      (d.applyConstraint line
        (.foreignKey [name] (some target.table) target.column.toList)) := by
  have hkeys : keysOf d.entity.id line target.table [name] target.column.toList =
      [⟨d.entity.id, name, target.table, target.column, 0, line⟩] := by
    rw [keysOf]
    cases target.column with
    | none => rfl
    | some x => rfl
  rw [applyConstraint, hkeys]
  exact ⟨rfl, gained_concat _ (by simp [isTo, hname])⟩

/-- The reference of a column is no part of the column. -/
theorem pushColumn_reference (d : TableDraft) (index : Nat) (c : Column)
    (reference : Option ForeignTarget) :
    d.pushColumn index { c with reference } = d.pushColumn index c := by
  simp only [pushColumn, Column.toField, Column.storedType]

/-- A column definition with a reference leaves one key pending that it does not leave without. -/
theorem gains_addColumn (d : TableDraft) {clause clause' : Clause} {c : Column}
    (hread : Column.ofClause clause = .ok c)
    (hread' : Column.ofClause clause' = .ok { c with reference := some target })
    (hother : ∀ other ∈ c.reference, other = target) (hname : Text.sameName c.name column = true)
    (hnew : d.entity.fieldNamed? c.name = none) :
    (d.addColumn index line clause).Gains (isTo d.entity.id column target)
      (d.addColumn index line clause') := by
  have hkey : d.Gains (isTo d.entity.id column target)
      (d.addKey ⟨d.entity.id, c.name, target.table, target.column, 0, line⟩) :=
    ⟨rfl, gained_concat _ (by simp [isTo, hname])⟩
  rw [addColumn, addColumn, hread, hread']
  dsimp only
  rw [hnew, Option.isSome_none, if_neg Bool.false_ne_true, if_neg Bool.false_ne_true,
    pushColumn_reference _ index c (some target)]
  cases hreference : c.reference with
  | none => exact hkey.pushColumn index c
  | some other =>
      obtain rfl := hother other hreference
      exact ⟨rfl, rfl, hkey.keys.gained⟩

end TableDraft

/-! ## Drafts -/

/-- Two drafts that differ in findings and in `own` keys. -/
structure Draft.Gains (own : PendingKey → Bool) (d d' : Draft) : Prop where
  entities : d'.entities = d.entities
  keys : Gained own d.pendingKeys d'.pendingKeys

namespace Draft

variable {d d' d'' : Draft}

namespace Gains

theorem trans (h : d.Gains own d') (h' : d'.Gains own d'') : d.Gains own d'' :=
  ⟨h'.entities.trans h.entities, h.keys.trans h'.keys⟩

theorem schema_eq (h : d.Gains own d') : d'.schema = d.schema := by
  rw [schema, schema, h.entities]

theorem createTable (h : d.Gains own d') (s : Statement) (rest : Clause) :
    (d.createTable s rest).Gains own (d'.createTable s rest) := by
  rw [Draft.createTable, Draft.createTable]
  cases tableHeader rest with
  | error fault => exact ⟨h.entities, h.keys⟩
  | ok header =>
      simp only [addTable, h.schema_eq, h.entities]
      split
      · exact ⟨h.entities, h.keys⟩
      · split
        · exact ⟨h.entities, h.keys.append _⟩
        · exact ⟨rfl, h.keys.append _⟩

theorem alterTable (h : d.Gains own d') (s : Statement) (rest : Clause) :
    (d.alterTable s rest).Gains own (d'.alterTable s rest) := by
  simp only [Draft.alterTable, h.entities]
  split
  · exact ⟨h.entities, h.keys⟩
  · split
    · exact ⟨h.entities, h.keys⟩
    · split
      · exact h
      · exact ⟨rfl, h.keys.append _⟩

/-- What a statement does, it does with a key more as well. -/
theorem add (h : d.Gains own d') (s : Statement) : (d.add s).Gains own (d'.add s) := by
  rw [Draft.add, Draft.add]
  cases s.kind with
  | createTable rest => exact h.createTable s rest
  | alterTable rest => exact h.alterTable s rest
  | other => exact h

theorem foldl_add (h : d.Gains own d') (statements : List Statement) :
    (statements.foldl Draft.add d).Gains own (statements.foldl Draft.add d') := by
  induction statements generalizing d d' with
  | nil => exact h
  | cons s rest ih => exact ih (h.add s)

end Gains

end Draft

end Ddl

end EntityRelation
