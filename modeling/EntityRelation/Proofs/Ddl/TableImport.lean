import EntityRelation.Proofs.Ddl.Numbering
import EntityRelation.Proofs.Ddl.ScriptReading

/-!
# Tables put together again

The clauses of one table give its entity again, with new ids and without the foreign key view, and
every foreign key clause is kept for later. Nothing is left out on the way as long as the names of
the columns differ.
-/

namespace EntityRelation

namespace Ddl

/-- A field as the column at an index of the table at an index is imported. -/
def importedField (index column : Nat) (f : Field) : Field :=
  { f.clearReference with id := fieldIdAt index column }

/-- An entity as the table at an index is imported. -/
def importedEntity (o : ScriptOptions) (index : Nat) (e : Entity) : Entity where
  id := entityIdAt index
  name := e.name
  fields := e.fields.mapIdx (importedField index)
  position := if o.includePositions then e.position else defaultPosition index

/-- The names of fields as far as they tell fields apart. -/
def foldedNames (fields : List Field) : List (List Char) :=
  fields.map fun f => Text.foldAscii f.name

theorem fieldNamed?_eq_none {e : Entity} {name : String}
    (h : Text.foldAscii name ∉ foldedNames e.fields) : e.fieldNamed? name = none := by
  rw [Entity.fieldNamed?, List.find?_eq_none]
  intro f hf hsame
  rw [Text.sameName, beq_iff_eq] at hsame
  exact h (hsame ▸ List.mem_map_of_mem hf)

theorem fieldNamed?_isSome {e : Entity} {f : Field} (hf : f ∈ e.fields) :
    (e.fieldNamed? f.name).isSome = true := by
  rw [Entity.fieldNamed?, List.find?_isSome]
  exact ⟨f, hf, by rw [Text.sameName, beq_self_eq_true]⟩

namespace TableDraft

variable {index line : Nat}

/-- The draft with other fields. -/
def withFields (draft : TableDraft) (fields : List Field) : TableDraft :=
  { draft with entity := { draft.entity with fields } }

@[simp] theorem fields_withFields (draft : TableDraft) (fields : List Field) :
    (draft.withFields fields).entity.fields = fields := rfl

@[simp] theorem withFields_withFields (draft : TableDraft) (fields fields' : List Field) :
    (draft.withFields fields).withFields fields' = draft.withFields fields' := rfl

/-! ## Columns -/

theorem addColumn_eq {draft : TableDraft} {f : Field} {isKey : Bool} {c : Clause}
    (h : Defines f isKey c) (hname : Text.foldAscii f.name ∉ foldedNames draft.entity.fields) :
    draft.addColumn index line c = draft.withFields (draft.entity.fields ++
      [{ importedField index draft.entity.fields.length f with isPrimaryKey := isKey }]) := by
  obtain ⟨column, hcolumn, hcname, hreference, hfield⟩ := h.column
  have hnew : (draft.entity.fieldNamed? column.name).isSome = false := by
    rw [hcname, fieldNamed?_eq_none hname]
    rfl
  rw [addColumn]
  simp only [hcolumn, hnew, hreference, Bool.false_eq_true, if_false, pushColumn, hfield]
  rfl

theorem foldl_addColumn {isKey : Field → Bool} {fields : List Field} {columns : List Clause}
    (h : List.Forall₂ (fun f => Defines f (isKey f)) fields columns) (draft : TableDraft)
    (hnames : (foldedNames (draft.entity.fields ++ fields)).Nodup) :
    columns.foldl (addColumn index line) draft = draft.withFields (draft.entity.fields ++
      fields.mapIdx fun j f => { importedField index (draft.entity.fields.length + j) f with
        isPrimaryKey := isKey f }) := by
  induction h generalizing draft with
  | nil => simp [withFields]
  | @cons f c fields columns hfirst _ ih =>
      rw [foldedNames, List.map_append, List.map_cons] at hnames
      have hname : Text.foldAscii f.name ∉ foldedNames draft.entity.fields := by
        intro hmem
        exact (List.nodup_append.1 hnames).2.2 _ hmem _ List.mem_cons_self rfl
      rw [List.foldl_cons, addColumn_eq hfirst hname, ih]
      · rw [List.mapIdx_cons]
        simp only [fields_withFields, withFields_withFields, List.length_append,
          List.length_singleton, List.append_assoc, List.singleton_append, Nat.add_zero,
          Nat.add_assoc, Nat.add_comm 1]
      · rw [foldedNames, fields_withFields, List.map_append, List.map_append, List.append_assoc]
        exact hnames

/-! ## Constraints -/

theorem markPrimaryKey_eq {draft : TableDraft} {f : Field} (hf : f ∈ draft.entity.fields)
    (hnames : (foldedNames draft.entity.fields).Nodup) :
    draft.markPrimaryKey line f.name = draft.withFields (draft.entity.fields.map fun g =>
      { g with isPrimaryKey := g.isPrimaryKey || Text.sameName g.name f.name }) := by
  have hupdate := updateFirst_key_eq_map hnames (Text.foldAscii f.name)
    fun field => { field with isPrimaryKey := true }
  rw [markPrimaryKey, if_pos (fieldNamed?_isSome hf), updateNamed]
  refine congrArg draft.withFields (hupdate.trans (List.map_congr_left fun g _ => ?_))
  rw [Text.sameName]
  cases Text.foldAscii g.name == Text.foldAscii f.name with
  | false => simp
  | true => simp

theorem foldedNames_map {fields : List Field} {g : Field → Field} (h : ∀ f, (g f).name = f.name) :
    foldedNames (fields.map g) = foldedNames fields := by
  rw [foldedNames, foldedNames, List.map_map]
  exact List.map_congr_left fun f _ => congrArg Text.foldAscii (h f)

theorem foldl_markPrimaryKey {names : List String} {draft : TableDraft}
    (hmem : ∀ name ∈ names, ∃ f ∈ draft.entity.fields, f.name = name)
    (hnames : (foldedNames draft.entity.fields).Nodup) :
    names.foldl (markPrimaryKey line) draft = draft.withFields (draft.entity.fields.map fun g =>
      { g with isPrimaryKey := g.isPrimaryKey || names.any (Text.sameName g.name) }) := by
  induction names generalizing draft with
  | nil => simp [withFields]
  | cons name names ih =>
      obtain ⟨f, hf, rfl⟩ := hmem name List.mem_cons_self
      rw [List.foldl_cons, markPrimaryKey_eq hf hnames, ih]
      · simp only [fields_withFields, withFields_withFields, List.map_map, Function.comp_def,
          List.any_cons, Bool.or_assoc]
      · intro name' hname'
        obtain ⟨f', hf', rfl⟩ := hmem name' (List.mem_cons_of_mem _ hname')
        exact ⟨_, List.mem_map_of_mem hf', rfl⟩
      · rw [fields_withFields, foldedNames_map]
        · exact hnames
        · exact fun _ => rfl

/-- A foreign key clause as it is kept for later. -/
def pendingKey (child : EntityId) (line : Nat) (k : ForeignKeyDefinition) : PendingKey :=
  ⟨child, k.column, k.table, some k.referenced, 0, line⟩

theorem foldl_foreignKeys (keys : List ForeignKeyDefinition) (draft : TableDraft) :
    (keys.map fun k => TableConstraint.foreignKey [k.column] (some k.table) [k.referenced]).foldl
        (applyConstraint line) draft =
      { draft with pendingKeys := draft.pendingKeys ++ keys.map (pendingKey draft.entity.id line) } := by
  induction keys generalizing draft with
  | nil => simp
  | cons k keys ih =>
      rw [List.map_cons, List.foldl_cons, ih, List.map_cons]
      simp only [applyConstraint, keysOf, List.mapIdx_cons, List.mapIdx_nil, List.foldl_cons,
        List.foldl_nil, addKey, pendingKey, List.append_assoc, List.singleton_append]
      rfl

/-! ## The whole table -/

theorem filter_isBody {e : Entity} {keys : List ForeignKeyDefinition} {parts : List Clause}
    (h : IsBody e keys parts) : ∃ columns,
      parts.filter (fun c => (TableConstraint.ofClause? c).isNone) = columns ∧
      List.Forall₂ (fun f => Defines f (f.isPrimaryKey && e.primaryKeys.length == 1)) e.fields
        columns ∧
      parts.filterMap TableConstraint.ofClause? = constraintsOf e keys := by
  obtain ⟨columns, constraints, rfl, hcolumns, hconstraints⟩ := h
  have hnone : ∀ c ∈ columns, TableConstraint.ofClause? c = none := by
    intro c hc
    obtain ⟨f, -, hf⟩ := exists_of_forall₂ hcolumns hc
    exact hf.ofClause?_eq
  have hsome : ∀ c ∈ constraints, (TableConstraint.ofClause? c).isSome := by
    intro c hc
    obtain ⟨constraint, -, hstates⟩ := exists_of_forall₂ hconstraints hc
    rw [hstates.ofClause?_eq]
    rfl
  have hread : constraints.filterMap TableConstraint.ofClause? = constraintsOf e keys := by
    clear hsome
    generalize constraintsOf e keys = stated at hconstraints
    induction hconstraints with
    | nil => rfl
    | cons hfirst _ ih => rw [List.filterMap_cons, hfirst.ofClause?_eq, ih]
  refine ⟨columns, ?_, hcolumns, ?_⟩
  · rw [List.filter_append, List.filter_eq_self.2, List.filter_eq_nil_iff.2, List.append_nil]
    · intro c hc
      simp [Option.isSome_iff_ne_none.1 (hsome c hc)]
    · intro c hc
      rw [hnone c hc]
      rfl
  · rw [List.filterMap_append, List.filterMap_eq_nil_iff.2 hnone, List.nil_append, hread]

theorem any_primaryKeys {e : Entity} (hnames : (foldedNames e.fields).Nodup) {f : Field}
    (hf : f ∈ e.fields) :
    (e.primaryKeys.map Field.name).any (Text.sameName f.name) = f.isPrimaryKey := by
  rw [Bool.eq_iff_iff, List.any_map, List.any_eq_true]
  constructor
  · rintro ⟨g, hg, hsame⟩
    obtain ⟨hmem, hkey⟩ := List.mem_filter.1 hg
    rw [Function.comp_apply, Text.sameName, beq_iff_eq] at hsame
    rwa [List.inj_on_of_nodup_map hnames hf hmem hsame]
  · intro hkey
    refine ⟨f, List.mem_filter.2 ⟨hf, hkey⟩, ?_⟩
    rw [Function.comp_apply, Text.sameName, beq_self_eq_true]

theorem isPrimaryKey_of_le {e : Entity} (h : ¬1 < e.primaryKeys.length) {f : Field}
    (hf : f ∈ e.fields) : (f.isPrimaryKey && e.primaryKeys.length == 1) = f.isPrimaryKey := by
  cases hkey : f.isPrimaryKey with
  | false => rfl
  | true =>
      have hpos : 0 < e.primaryKeys.length :=
        List.length_pos_of_mem (List.mem_filter.2 ⟨hf, hkey⟩)
      rw [Bool.true_and, beq_iff_eq]
      omega

/-- Marking the columns of a composite key makes the key of the entity again. -/
theorem foldl_constraintsOf {e : Entity} {keys : List ForeignKeyDefinition} {draft : TableDraft}
    (hnames : (foldedNames e.fields).Nodup)
    (hfields : draft.entity.fields = e.fields.mapIdx fun j f =>
      { importedField index j f with isPrimaryKey := f.isPrimaryKey && e.primaryKeys.length == 1 }) :
    (constraintsOf e keys).foldl (applyConstraint line) draft =
      { draft.withFields (e.fields.mapIdx (importedField index)) with
        pendingKeys := draft.pendingKeys ++ keys.map (pendingKey draft.entity.id line) } := by
  have hshape : ∀ {g : Nat → Field → Field},
      (∀ (i : Nat) (f : Field), f ∈ e.fields → g i f = importedField index i f) →
      e.fields.mapIdx g = e.fields.mapIdx (importedField index) := fun h =>
    List.mapIdx_eq_mapIdx_iff.2 fun i hi => h i _ (List.getElem_mem hi)
  rw [constraintsOf, List.foldl_append]
  by_cases hkeys : 1 < e.primaryKeys.length
  · have hdraftNames : (foldedNames draft.entity.fields).Nodup := by
      rw [foldedNames, hfields, map_mapIdx]
      exact (mapIdx_const (fun f : Field => Text.foldAscii f.name) e.fields).symm ▸ hnames
    have hmem : ∀ name ∈ e.primaryKeys.map Field.name,
        ∃ f ∈ draft.entity.fields, f.name = name := by
      intro name hname
      obtain ⟨f, hf, rfl⟩ := List.mem_map.1 hname
      obtain ⟨i, hi, rfl⟩ := List.mem_iff_getElem.1 (List.mem_filter.1 hf).1
      rw [hfields]
      exact ⟨_, List.mem_mapIdx.2 ⟨i, hi, rfl⟩, rfl⟩
    have hone : (e.primaryKeys.length == 1) = false := by
      rw [beq_eq_false_iff_ne]
      omega
    have hmarked : ∀ (i : Nat) (f : Field), f ∈ e.fields →
        { importedField index i f with
          isPrimaryKey := (f.isPrimaryKey && e.primaryKeys.length == 1) ||
            (e.primaryKeys.map Field.name).any (Text.sameName f.name) } =
        importedField index i f := by
      intro i f hf
      rw [any_primaryKeys hnames hf, hone, Bool.and_false, Bool.false_or]
      rfl
    rw [if_pos hkeys, List.foldl_cons, List.foldl_nil, applyConstraint,
      foldl_markPrimaryKey hmem hdraftNames, foldl_foreignKeys, hfields, map_mapIdx]
    exact congrArg (fun fields => TableDraft.mk (draft.withFields fields).entity _ _)
      (hshape hmarked)
  · have hsame : draft.entity.fields = e.fields.mapIdx (importedField index) := by
      rw [hfields]
      refine hshape fun i f hf => ?_
      rw [isPrimaryKey_of_le hkeys hf]
      rfl
    rw [if_neg hkeys, List.foldl_nil, foldl_foreignKeys, ← hsame]
    rfl

end TableDraft

/-- A table is added as its entity, and its foreign keys are kept. -/
theorem Draft.add_table {o : ScriptOptions} {e : Entity} {keys : List ForeignKeyDefinition}
    {st : Statement} (h : IsTable (if o.includePositions then some e.position else none) e keys st)
    (hne : e.fields ≠ []) (hnames : (foldedNames e.fields).Nodup) {draft : Draft}
    (hnew : Text.foldAscii e.name ∉ draft.entities.map fun e => Text.foldAscii e.name) :
    draft.add st = { draft with
      entities := draft.entities ++ [importedEntity o draft.entities.length e]
      pendingKeys := draft.pendingKeys ++
        keys.map (TableDraft.pendingKey (entityIdAt draft.entities.length) st.line) } := by
  obtain ⟨rest, body, hkind, hheader, hbody⟩ := h.body
  obtain ⟨columns, hfilter, hcolumns, hconstraints⟩ := TableDraft.filter_isBody hbody
  have hentity : draft.schema.entityNamed? e.name = none := by
    rw [Schema.entityNamed?, List.find?_eq_none]
    intro e' he' hsame
    rw [Text.sameName, beq_iff_eq] at hsame
    exact hnew (hsame ▸ List.mem_map_of_mem he')
  have hread : (newTable draft.entities.length st e.name).addColumns draft.entities.length st.line
      body.splitTopLevel = (newTable draft.entities.length st e.name).withFields
        (e.fields.mapIdx fun j f => { importedField draft.entities.length j f with
          isPrimaryKey := f.isPrimaryKey && e.primaryKeys.length == 1 }) := by
    rw [TableDraft.addColumns, hfilter, TableDraft.foldl_addColumn hcolumns
      (newTable draft.entities.length st e.name) hnames]
    simp only [newTable, List.nil_append, List.length_nil, Nat.zero_add]
  have happly : TableDraft.applyConstraints st.line
      ((newTable draft.entities.length st e.name).withFields
        (e.fields.mapIdx fun j f => { importedField draft.entities.length j f with
          isPrimaryKey := f.isPrimaryKey && e.primaryKeys.length == 1 })) body.splitTopLevel =
      { (newTable draft.entities.length st e.name).withFields
          (e.fields.mapIdx (importedField draft.entities.length)) with
        pendingKeys := keys.map
          (TableDraft.pendingKey (entityIdAt draft.entities.length) st.line) } := by
    rw [TableDraft.applyConstraints, hconstraints]
    exact TableDraft.foldl_constraintsOf hnames rfl
  have hposition : (st.position?.getD (defaultPosition draft.entities.length)) =
      if o.includePositions then e.position else defaultPosition draft.entities.length := by
    rw [h.position?_eq]
    cases o.includePositions with
    | false | true => rfl
  have hfields : (e.fields.mapIdx fun j f => { importedField draft.entities.length j f with
      isPrimaryKey := f.isPrimaryKey && e.primaryKeys.length == 1 }).isEmpty = false := by
    rw [List.isEmpty_eq_false_iff]
    exact List.mapIdx_ne_nil_iff.2 hne
  rw [Draft.add, hkind]
  simp only [Draft.createTable, hheader, Draft.addTable, hentity, Option.isSome_none,
    Bool.false_eq_true, if_false, hread, happly, TableDraft.fields_withFields, hfields, Draft.absorb]
  simp only [TableDraft.withFields, newTable, hposition, List.append_nil]
  rfl

end Ddl

end EntityRelation
