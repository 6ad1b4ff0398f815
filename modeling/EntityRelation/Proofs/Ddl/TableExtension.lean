import EntityRelation.Ddl.Import
import EntityRelation.Proofs.Schema.Lookup

/-!
# What a clause does to a table

A clause does four things to a table under construction, and nothing else (`TableDraft.Extends`): it
adds a warning, it leaves a foreign key pending, it appends a column whose name is new, and it sets
flags of columns that are there. What these keep is kept by every clause and every alteration.
-/

namespace EntityRelation

namespace Ddl

theorem Column.dataType_toField (column : Column) (id : FieldId) :
    (column.toField id).dataType = column.storedType := rfl

namespace TableDraft

/-- A table after clauses, where every appended column has a property. -/
inductive Extends (index : Nat) (P : Column → Prop) : TableDraft → TableDraft → Prop where
  | refl (d : TableDraft) : Extends index P d d
  | warn {d d' : TableDraft} (line : Nat) (cause : WarningCause) (before : Extends index P d d') :
      Extends index P d (d'.warn line cause)
  | addKey {d d' : TableDraft} {key : PendingKey} (own : key.child = d'.entity.id)
      (before : Extends index P d d') : Extends index P d (d'.addKey key)
  | pushColumn {d d' : TableDraft} {column : Column}
      (new : d'.entity.fieldNamed? column.name = none) (holds : P column)
      (before : Extends index P d d') : Extends index P d (d'.pushColumn index column)
  | updateNamed {d d' : TableDraft} (name : String) {f : Field → Field}
      (kept : ∀ field, (f field).id = field.id ∧ (f field).name = field.name ∧
        (f field).dataType = field.dataType)
      (before : Extends index P d d') : Extends index P d (d'.updateNamed name f)

namespace Extends

variable {index : Nat} {P : Column → Prop} {d d' d'' : TableDraft}

theorem trans (h : Extends index P d d') (h' : Extends index P d' d'') : Extends index P d d'' := by
  induction h' with
  | refl => exact h
  | warn line cause _ ih => exact ih.warn line cause
  | addKey own _ ih => exact ih.addKey own
  | pushColumn new holds _ ih => exact ih.pushColumn new holds
  | updateNamed name kept _ ih => exact ih.updateNamed name kept

theorem name_eq (h : Extends index P d d') : d'.entity.name = d.entity.name := by
  induction h with
  | refl => rfl
  | warn _ _ _ ih => exact ih
  | addKey _ _ ih => exact ih
  | pushColumn _ _ _ ih => exact ih
  | updateNamed _ _ _ ih => exact ih

theorem id_eq (h : Extends index P d d') : d'.entity.id = d.entity.id := by
  induction h with
  | refl => rfl
  | warn _ _ _ ih => exact ih
  | addKey _ _ ih => exact ih
  | pushColumn _ _ _ ih => exact ih
  | updateNamed _ _ _ ih => exact ih

/-- No column is lost. -/
theorem length_le (h : Extends index P d d') : d.entity.fields.length ≤ d'.entity.fields.length := by
  induction h with
  | refl => exact Nat.le_refl _
  | warn _ _ _ ih => exact ih
  | addKey _ _ ih => exact ih
  | pushColumn _ _ _ ih =>
      refine Nat.le_trans ih ?_
      simp [TableDraft.pushColumn]
  | updateNamed _ _ _ ih =>
      rw [TableDraft.updateNamed, length_updateFirst]
      exact ih

theorem fields_ne_nil (h : Extends index P d d') (hne : d.entity.fields ≠ []) :
    d'.entity.fields ≠ [] := by
  intro hnil
  have hle := h.length_le
  rw [hnil, List.length_nil, Nat.le_zero, List.length_eq_zero_iff] at hle
  exact hne hle

theorem fieldNames (h : Extends index P d d')
    (hnames : (d.entity.fields.map fun f => Text.foldAscii f.name).Nodup) :
    (d'.entity.fields.map fun f => Text.foldAscii f.name).Nodup := by
  induction h with
  | refl => exact hnames
  | warn _ _ _ ih => exact ih
  | addKey _ _ ih => exact ih
  | pushColumn new _ _ ih =>
      rw [TableDraft.pushColumn, List.map_append, List.map_singleton]
      refine ih.append (List.nodup_singleton _) ?_
      rw [List.disjoint_singleton]
      intro hmem
      obtain ⟨f, hf, hname⟩ := List.mem_map.1 hmem
      exact List.find?_eq_none.1 new f hf (beq_iff_eq.2 hname)
  | updateNamed _ kept _ ih =>
      rwa [TableDraft.updateNamed, map_updateFirst _ _ (fun f : Field => Text.foldAscii f.name)
        fun field => congrArg Text.foldAscii (kept field).2.1]

/-- What all columns of a table satisfy, if it is a matter of their types. -/
theorem dataTypes {Q : String → Prop} (h : Extends index P d d')
    (hP : ∀ column, P column → Q column.storedType) (htypes : ∀ f ∈ d.entity.fields, Q f.dataType) :
    ∀ f ∈ d'.entity.fields, Q f.dataType := by
  induction h with
  | refl => exact htypes
  | warn _ _ _ ih => exact ih
  | addKey _ _ ih => exact ih
  | pushColumn _ holds _ ih =>
      intro f hf
      rcases List.mem_append.1 hf with hold | hlast
      · exact ih f hold
      · rw [List.mem_singleton.1 hlast, Column.dataType_toField]
        exact hP _ holds
  | updateNamed _ kept _ ih =>
      intro f hf
      rcases mem_updateFirst hf with hold | ⟨f, hold, rfl⟩
      · exact ih f hold
      · rw [(kept f).2.2]
        exact ih f hold

/-- Pending foreign keys belong to the table. -/
theorem child_eq (h : Extends index P d d') (hkeys : ∀ key ∈ d.pendingKeys, key.child = d.entity.id) :
    ∀ key ∈ d'.pendingKeys, key.child = d'.entity.id := by
  induction h with
  | refl => exact hkeys
  | warn _ _ _ ih => exact ih
  | addKey own _ ih =>
      intro key hkey
      rcases List.mem_append.1 hkey with hold | hlast
      · exact ih key hold
      · obtain rfl := List.mem_singleton.1 hlast
        exact own
  | pushColumn _ _ _ ih => exact ih
  | updateNamed _ _ _ ih => exact ih

end Extends

/-! ## The readers of clauses -/

variable {index line : Nat} {P : Column → Prop}

theorem extends_foldl {β : Type} {step : TableDraft → β → TableDraft} {bs : List β}
    (hstep : ∀ d, ∀ b ∈ bs, Extends index P d (step d b)) (d : TableDraft) :
    Extends index P d (bs.foldl step d) := by
  induction bs generalizing d with
  | nil => exact .refl d
  | cons b rest ih =>
      exact (hstep d b List.mem_cons_self).trans
        (ih (fun d b hb => hstep d b (List.mem_cons_of_mem _ hb)) _)

theorem extends_addColumn {clause : Clause}
    (h : ∀ column, Column.ofClause clause = .ok column → P column) (d : TableDraft) :
    Extends index P d (d.addColumn index line clause) := by
  rw [addColumn]
  split
  · exact (Extends.refl d).warn _ _
  · next column hcolumn =>
    split
    · exact (Extends.refl d).warn _ _
    · next hnew =>
      rw [Bool.not_eq_true, Option.isSome_eq_false_iff, Option.isNone_iff_eq_none] at hnew
      split
      · exact (Extends.refl d).pushColumn hnew (h column hcolumn)
      · next target _ =>
        have hkey : Extends index P d
            (d.addKey ⟨d.entity.id, column.name, target.table, target.column, 0, line⟩) :=
          (Extends.refl d).addKey rfl
        exact hkey.pushColumn hnew (h column hcolumn)

theorem extends_markPrimaryKey (name : String) (d : TableDraft) :
    Extends index P d (d.markPrimaryKey line name) := by
  rw [markPrimaryKey]
  split
  · exact (Extends.refl d).updateNamed name fun _ => ⟨rfl, rfl, rfl⟩
  · exact (Extends.refl d).warn _ _

theorem extends_addKeys {keys : List PendingKey} (d : TableDraft)
    (h : ∀ key ∈ keys, key.child = d.entity.id) : Extends index P d (keys.foldl addKey d) := by
  induction keys generalizing d with
  | nil => exact .refl d
  | cons key rest ih =>
      have hfirst : Extends index P d (d.addKey key) :=
        (Extends.refl d).addKey (h key List.mem_cons_self)
      exact hfirst.trans (ih _ fun key' hkey' => h key' (List.mem_cons_of_mem key hkey'))

theorem extends_applyConstraint (constraint : TableConstraint) (d : TableDraft) :
    Extends index P d (d.applyConstraint line constraint) := by
  cases constraint with
  | primaryKey columns => exact extends_foldl (fun d name _ => extends_markPrimaryKey name d) d
  | foreignKey columns table referenced =>
      cases table with
      | none => exact (Extends.refl d).warn _ _
      | some table =>
          refine extends_addKeys d fun key hkey => ?_
          obtain ⟨i, _, rfl⟩ := List.mem_mapIdx.1 hkey
          rfl
  | unique columns =>
      cases columns with
      | nil => exact .refl d
      | cons name more =>
          cases more with
          | nil => exact (Extends.refl d).updateNamed name fun _ => ⟨rfl, rfl, rfl⟩
          | cons _ _ => exact .refl d
  | ignored => exact .refl d

theorem extends_addColumns {clauses : List Clause}
    (h : ∀ c ∈ clauses, ∀ column, Column.ofClause c = .ok column → P column) (d : TableDraft) :
    Extends index P d (d.addColumns index line clauses) :=
  extends_foldl (fun d c hc => extends_addColumn (h c (List.mem_filter.1 hc).1) d) d

theorem extends_applyConstraints (clauses : List Clause) (d : TableDraft) :
    Extends index P d (d.applyConstraints line clauses) :=
  extends_foldl (fun d constraint _ => extends_applyConstraint constraint d) d

/-- A table definition: all columns first, then the constraints. -/
theorem extends_definition {clauses : List Clause}
    (h : ∀ c ∈ clauses, ∀ column, Column.ofClause c = .ok column → P column) (d : TableDraft) :
    Extends index P d ((d.addColumns index line clauses).applyConstraints line clauses) :=
  (extends_addColumns h d).trans (extends_applyConstraints clauses _)

theorem extends_addAction {action : Clause}
    (h : ∀ c, c <:+ action → ∀ column, Column.ofClause c = .ok column → P column) (d : TableDraft) :
    Extends index P d (d.addAction index line action) := by
  rw [addAction]
  split
  · exact .refl d
  · next clause hclause =>
    split
    · exact extends_applyConstraint _ d
    · refine extends_addColumn (h _ ?_) d
      exact ((Clause.skip_suffix _ _).trans (Clause.skip_suffix _ _)).trans
        (Clause.after?_suffix hclause)

theorem extends_addActions {actions : List Clause}
    (h : ∀ action ∈ actions, ∀ c, c <:+ action →
      ∀ column, Column.ofClause c = .ok column → P column) (d : TableDraft) :
    Extends index P d (actions.foldl (addAction index line) d) :=
  extends_foldl (fun d action haction => extends_addAction (h action haction) d) d

end TableDraft

end Ddl

end EntityRelation
