import EntityRelation.Proofs.Ddl.GainedTables
import EntityRelation.Proofs.Ddl.Insertion
import EntityRelation.Proofs.Ddl.LinksOfColumn

/-!
# Key columns

A clause declares key columns by their names (`Clause.keyNames`), and so does an action of an
alteration (`Clause.addedKeyNames`). Nothing takes a column away or out of a key again, and nothing
but such a clause puts one in, so what the columns and the key of a table come to in a script can be
said in one relation (`Entity.Grows`), clause after clause and statement after statement.
-/

namespace EntityRelation

namespace Entity

/-- Whether a table has a column of a name in its primary key. -/
def isKeyColumn (e : Entity) (name : String) : Bool :=
  (e.fieldNamed? name).any Field.isPrimaryKey

theorem isKeyColumn_congr {name name' : String} (h : Text.sameName name name' = true)
    (e : Entity) : e.isKeyColumn name = e.isKeyColumn name' := by
  rw [isKeyColumn, isKeyColumn, e.fieldNamed?_congr h]

theorem isKeyColumn_iff {e : Entity} {name : String} : e.isKeyColumn name = true ↔
    ∃ f, e.fieldNamed? name = some f ∧ f.isPrimaryKey = true :=
  Option.any_eq_true _ _

theorem isKeyColumn_bare (e : Entity) (name : String) :
    e.bare.isKeyColumn name = e.isKeyColumn name := by
  rw [isKeyColumn, isKeyColumn, e.fieldNamed?_bare, Option.any_map]
  rfl

/-- Whether there is a column of a name is told by the names of the columns. -/
theorem isSome_fieldNamed? (e : Entity) (name : String) :
    (e.fieldNamed? name).isSome =
      (e.fields.map (·.name)).any fun other => Text.sameName other name := by
  rw [fieldNamed?, List.any_map, List.isSome_find?]
  rfl

/-- A table that has grown: columns and key columns are kept, and the key has gained no columns but
those of some names. -/
structure Grows (names : List String) (e e' : Entity) : Prop where
  kept : ∀ name, (e.fieldNamed? name).isSome = true → (e'.fieldNamed? name).isSome = true
  key_kept : ∀ name, e.isKeyColumn name = true → e'.isKeyColumn name = true
  key_gained : ∀ name, e'.isKeyColumn name = true →
    e.isKeyColumn name = true ∨ ∃ key ∈ names, Text.sameName key name = true

namespace Grows

variable {names names' : List String} {e e' e'' : Entity}

theorem refl (names : List String) (e : Entity) : Grows names e e :=
  ⟨fun _ h => h, fun _ h => h, fun _ h => .inl h⟩

theorem mono (h : Grows names e e') (hsub : names ⊆ names') : Grows names' e e' := by
  refine ⟨h.kept, h.key_kept, fun name hname => ?_⟩
  rcases h.key_gained name hname with hold | ⟨key, hkey, hsame⟩
  · exact .inl hold
  · exact .inr ⟨key, hsub hkey, hsame⟩

theorem trans (h : Grows names e e') (h' : Grows names e' e'') : Grows names e e'' := by
  refine ⟨fun name hname => h'.kept name (h.kept name hname),
    fun name hname => h'.key_kept name (h.key_kept name hname), fun name hname => ?_⟩
  rcases h'.key_gained name hname with hold | hnew
  · exact h.key_gained name hold
  · exact .inr hnew

end Grows

end Entity

namespace Ddl

/-! ## What declares a key -/

/-- The key columns that a constraint declares. -/
def TableConstraint.keyNames : TableConstraint → List String
  | primaryKey columns => columns
  | _ => []

namespace Clause

/-- The key column that the definition of a column declares. -/
def columnKey (c : Clause) : List String :=
  match Column.ofClause c with
  | .ok column => if column.isPrimaryKey then [column.name] else []
  | .error _ => []

/-- The key columns that a clause of a table body declares. -/
def keyNames (c : Clause) : List String :=
  match TableConstraint.ofClause? c with
  | some constraint => constraint.keyNames
  | none => c.columnKey

/-- The key columns that an action of an alteration declares. -/
def addedKeyNames (action : Clause) : List String :=
  match action.after? [.add] with
  | none => []
  | some c =>
    match TableConstraint.ofClause? c with
    | some constraint => constraint.keyNames
    | none => ((c.skip [.column]).skip [.ifWord, .notWord, .existsWord]).columnKey

end Clause

/-! ## Clauses -/

namespace TableDraft

/-- A table under construction that has grown. Warnings and foreign keys are kept as well. -/
structure Grows (names : List String) (d d' : TableDraft) : Prop
    extends Entity.Grows names d.entity d'.entity where
  warnings : d.warnings <+: d'.warnings
  pendingKeys : d.pendingKeys <+: d'.pendingKeys

variable {names : List String} {d d' d'' : TableDraft} {index line : Nat} {name : String}

namespace Grows

theorem refl (names : List String) (d : TableDraft) : Grows names d d :=
  ⟨.refl names d.entity, List.prefix_refl _, List.prefix_refl _⟩

theorem trans (h : Grows names d d') (h' : Grows names d' d'') : Grows names d d'' :=
  ⟨h.toGrows.trans h'.toGrows, h.warnings.trans h'.warnings, h.pendingKeys.trans h'.pendingKeys⟩

theorem foldl {β : Type} {step : TableDraft → β → TableDraft} {bs : List β}
    (hstep : ∀ b ∈ bs, ∀ d, Grows names d (step d b)) (d : TableDraft) :
    Grows names d (bs.foldl step d) := by
  induction bs generalizing d with
  | nil => exact .refl names d
  | cons b rest ih =>
      exact (hstep b List.mem_cons_self d).trans
        (ih (fun b hb => hstep b (List.mem_cons_of_mem _ hb)) _)

end Grows

theorem grows_warn (line : Nat) (cause : WarningCause) (d : TableDraft) :
    Grows names d (d.warn line cause) :=
  ⟨.refl names d.entity, List.prefix_append _ _, List.prefix_refl _⟩

theorem grows_addKey (key : PendingKey) (d : TableDraft) : Grows names d (d.addKey key) :=
  ⟨.refl names d.entity, List.prefix_refl _, List.prefix_append _ _⟩

theorem fieldNamed?_pushColumn (index : Nat) (column : Column) (d : TableDraft) (name : String) :
    (d.pushColumn index column).entity.fieldNamed? name =
      (d.entity.fieldNamed? name).or
        (if Text.sameName column.name name then
          some (column.toField (nextFieldId index d.entity)) else none) := by
  rw [Entity.fieldNamed?, pushColumn, List.find?_append, List.find?_singleton]
  rfl

theorem grows_pushColumn {column : Column} (h : column.isPrimaryKey = true → column.name ∈ names)
    (d : TableDraft) : Grows names d (d.pushColumn index column) := by
  refine ⟨⟨fun name hname => ?_, fun name hname => ?_, fun name hname => ?_⟩,
    List.prefix_refl _, List.prefix_refl _⟩
  · rw [fieldNamed?_pushColumn, Option.isSome_or, hname, Bool.true_or]
  · obtain ⟨f, hf, hkey⟩ := Entity.isKeyColumn_iff.1 hname
    exact Entity.isKeyColumn_iff.2 ⟨f, by rw [fieldNamed?_pushColumn, hf, Option.some_or], hkey⟩
  · rw [Entity.isKeyColumn] at hname ⊢
    rw [fieldNamed?_pushColumn] at hname
    cases hf : d.entity.fieldNamed? name with
    | some f =>
        rw [hf, Option.some_or] at hname
        exact .inl hname
    | none =>
        rw [hf, Option.none_or] at hname
        split at hname
        · next hsame => exact .inr ⟨column.name, h hname, hsame⟩
        · cases hname

/-- A change of the column of a name is seen under that name, and nowhere else. -/
theorem fieldNamed?_updateNamed {f : Field → Field} (hf : ∀ field, (f field).name = field.name)
    (d : TableDraft) (name other : String) :
    (d.updateNamed name f).entity.fieldNamed? other =
      (d.entity.fieldNamed? other).map (if Text.sameName name other then f else id) := by
  by_cases hsame : Text.sameName name other = true
  · rw [if_pos hsame, ← Entity.fieldNamed?_congr hsame, ← Entity.fieldNamed?_congr hsame]
    refine find?_updateFirst _ f (fun field hfield => ?_) _
    rwa [hf]
  · have hne : Text.foldAscii other ≠ Text.foldAscii name := fun heq =>
      hsame (beq_iff_eq.2 heq.symm)
    rw [if_neg hsame, Option.map_id, id]
    have hkey : ∀ field : Field, Text.foldAscii field.name = Text.foldAscii name →
        Text.foldAscii (f field).name = Text.foldAscii name := fun field hfield => by
      rw [hf, hfield]
    exact find?_updateFirst_key_of_ne hne hkey d.entity.fields

theorem grows_updateNamed {f : Field → Field} (hf : ∀ field, (f field).name = field.name)
    (hkept : ∀ field, field.isPrimaryKey = true → (f field).isPrimaryKey = true)
    (hgained : ∀ field, (f field).isPrimaryKey = true → field.isPrimaryKey = true ∨ name ∈ names)
    (d : TableDraft) : Grows names d (d.updateNamed name f) := by
  refine ⟨⟨fun other hother => ?_, fun other hother => ?_, fun other hother => ?_⟩,
    List.prefix_refl _, List.prefix_refl _⟩
  · rwa [fieldNamed?_updateNamed hf, Option.isSome_map]
  · obtain ⟨field, hfield, hkey⟩ := Entity.isKeyColumn_iff.1 hother
    rw [Entity.isKeyColumn, fieldNamed?_updateNamed hf, hfield, Option.map_some, Option.any_some]
    split
    · exact hkept field hkey
    · exact hkey
  · obtain ⟨field', hfield', hkey⟩ := Entity.isKeyColumn_iff.1 hother
    rw [fieldNamed?_updateNamed hf] at hfield'
    obtain ⟨field, hfield, rfl⟩ := Option.map_eq_some_iff.1 hfield'
    have hold : field.isPrimaryKey = true → d.entity.isKeyColumn other = true := fun h =>
      Entity.isKeyColumn_iff.2 ⟨field, hfield, h⟩
    split at hkey
    · next hsame => exact (hgained field hkey).imp hold fun hname => ⟨name, hname, hsame⟩
    · exact .inl (hold hkey)

theorem grows_addColumn {clause : Clause} (h : clause.columnKey ⊆ names) (d : TableDraft) :
    Grows names d (d.addColumn index line clause) := by
  rw [addColumn]
  rw [Clause.columnKey] at h
  split
  · exact grows_warn _ _ d
  · next column hcolumn =>
    rw [hcolumn] at h
    have hkey : column.isPrimaryKey = true → column.name ∈ names := by
      intro hprimary
      refine h ?_
      dsimp only
      rw [if_pos hprimary]
      exact List.mem_cons_self
    split
    · exact grows_warn _ _ d
    · split
      · exact grows_pushColumn hkey d
      · exact (grows_addKey _ d).trans (grows_pushColumn hkey _)

theorem grows_markPrimaryKey (h : name ∈ names) (d : TableDraft) :
    Grows names d (d.markPrimaryKey line name) := by
  rw [markPrimaryKey]
  split
  · refine grows_updateNamed ?_ ?_ ?_ d
    · exact fun _ => rfl
    · exact fun _ _ => rfl
    · exact fun _ _ => .inr h
  · exact grows_warn _ _ d

theorem grows_applyConstraint {constraint : TableConstraint} (h : constraint.keyNames ⊆ names)
    (d : TableDraft) : Grows names d (d.applyConstraint line constraint) := by
  cases constraint with
  | primaryKey columns =>
      exact .foldl (fun name hname d => grows_markPrimaryKey (h hname) d) d
  | foreignKey columns table referenced =>
      cases table with
      | none => exact grows_warn _ _ d
      | some table => exact .foldl (fun key _ d => grows_addKey key d) d
  | unique columns =>
      cases columns with
      | nil => exact .refl names d
      | cons name more =>
          cases more with
          | nil =>
              refine grows_updateNamed ?_ ?_ ?_ d
              · exact fun _ => rfl
              · exact fun _ h => h
              · exact fun _ h => .inl h
          | cons _ _ => exact .refl names d
  | ignored => exact .refl names d

theorem grows_addColumns {clauses : List Clause} (h : ∀ c ∈ clauses, c.keyNames ⊆ names)
    (d : TableDraft) : Grows names d (d.addColumns index line clauses) := by
  refine .foldl (fun clause hclause d => grows_addColumn ?_ d) d
  obtain ⟨hmem, hdefines⟩ := List.mem_filter.1 hclause
  have hnames := h clause hmem
  rwa [Clause.keyNames, Option.isNone_iff_eq_none.1 hdefines] at hnames

theorem grows_applyConstraints {clauses : List Clause} (h : ∀ c ∈ clauses, c.keyNames ⊆ names)
    (d : TableDraft) : Grows names d (d.applyConstraints line clauses) := by
  refine .foldl (fun constraint hconstraint d => grows_applyConstraint ?_ d) d
  obtain ⟨clause, hclause, hstates⟩ := List.mem_filterMap.1 hconstraint
  have hnames := h clause hclause
  rwa [Clause.keyNames, hstates] at hnames

theorem grows_addAction {action : Clause} (h : action.addedKeyNames ⊆ names) (d : TableDraft) :
    Grows names d (d.addAction index line action) := by
  rw [Clause.addedKeyNames] at h
  rw [addAction]
  split
  · exact .refl names d
  · next clause hclause =>
    rw [hclause] at h
    dsimp only at h
    split
    · next constraint hconstraint =>
      rw [hconstraint] at h
      exact grows_applyConstraint h d
    · next hdefines =>
      rw [hdefines] at h
      exact grows_addColumn h d

theorem grows_addActions {actions : List Clause}
    (h : ∀ action ∈ actions, action.addedKeyNames ⊆ names) (d : TableDraft) :
    Grows names d (actions.foldl (addAction index line) d) :=
  .foldl (fun action haction d => grows_addAction (h action haction) d) d

/-! ## Marking a key -/

theorem isKeyColumn_markPrimaryKey (h : (d.entity.fieldNamed? name).isSome = true) :
    (d.markPrimaryKey line name).entity.isKeyColumn name = true := by
  obtain ⟨field, hfield⟩ := Option.isSome_iff_exists.1 h
  have hsame : Text.sameName name name = true := beq_self_eq_true _
  rw [markPrimaryKey, if_pos h, Entity.isKeyColumn, fieldNamed?_updateNamed, hfield, if_pos hsame]
  · rfl
  · exact fun _ => rfl

theorem isSome_fieldNamed?_applyConstraint (constraint : TableConstraint) (d : TableDraft)
    (name : String) : ((d.applyConstraint line constraint).entity.fieldNamed? name).isSome =
      (d.entity.fieldNamed? name).isSome := by
  rw [Entity.isSome_fieldNamed?, Entity.isSome_fieldNamed?,
    map_fields_applyConstraint ⟨fun _ => rfl, fun _ => rfl⟩]

theorem isSome_fieldNamed?_applyConstraints (clauses : List Clause) (d : TableDraft)
    (name : String) : ((d.applyConstraints line clauses).entity.fieldNamed? name).isSome =
      (d.entity.fieldNamed? name).isSome := by
  rw [Entity.isSome_fieldNamed?, Entity.isSome_fieldNamed?,
    map_fields_applyConstraints ⟨fun _ => rfl, fun _ => rfl⟩]

/-- A primary key puts each of its columns in the key, or warns that there is none. -/
theorem applyConstraint_primaryKey {columns : List String} (h : name ∈ columns) (d : TableDraft) :
    ((d.entity.fieldNamed? name).isSome = true →
        (d.applyConstraint line (.primaryKey columns)).entity.isKeyColumn name = true) ∧
      (d.entity.fieldNamed? name = none →
        (⟨line, .unknownKeyColumn d.entity.name name⟩ : Warning) ∈
          (d.applyConstraint line (.primaryKey columns)).warnings) := by
  obtain ⟨front, back, rfl⟩ := List.append_of_mem h
  have hsplit : d.applyConstraint line (.primaryKey (front ++ name :: back)) =
      back.foldl (markPrimaryKey line)
        ((d.applyConstraint line (.primaryKey front)).markPrimaryKey line name) := by
    rw [applyConstraint, List.foldl_append, List.foldl_cons]
    rfl
  have hfront := @isSome_fieldNamed?_applyConstraint line (.primaryKey front) d name
  have hname : (d.applyConstraint line (.primaryKey front)).entity.name = d.entity.name :=
    (@extends_applyConstraint 0 line (fun _ => True) (.primaryKey front) d).name_eq
  have hback : Grows back
      ((d.applyConstraint line (.primaryKey front)).markPrimaryKey line name)
      (back.foldl (markPrimaryKey line) _) :=
    .foldl (fun other hother d => grows_markPrimaryKey hother d) _
  rw [hsplit]
  constructor
  · exact fun hthere => hback.key_kept name (isKeyColumn_markPrimaryKey (hfront.trans hthere))
  · intro hnone
    refine hback.warnings.subset ?_
    rw [markPrimaryKey, hfront, hnone, Option.isSome_none, if_neg Bool.false_ne_true, warn, hname]
    exact List.mem_append_right _ List.mem_cons_self

end TableDraft

/-! ## Statements -/

/-- The key columns that a statement declares for a table that stands. -/
def Statement.addedKeyNames (s : Statement) (table : String) : List String :=
  match s.lexemes.altered? with
  | some (name, actions) =>
    if Text.sameName name table then actions.splitTopLevel.flatMap Clause.addedKeyNames else []
  | none => []

theorem Statement.altered?_of_kind {s : Statement} {rest actions : Clause} {name : String}
    (hkind : s.kind = .alterTable rest)
    (hname : ((rest.skip [.only]).skip [.ifWord, .existsWord]).tableName? = some (name, actions)) :
    s.lexemes.altered? = some (name, actions) := by
  rw [kind] at hkind
  split at hkind
  · split at hkind
    · cases hkind
    · cases hkind
  · split at hkind
    · next r hr =>
      obtain rfl := StatementKind.alterTable.inj hkind
      rw [Clause.altered?, hr]
      exact hname
    · cases hkind

/-- Putting something in at the first match changes the first match. -/
theorem set_findIdx?_eq {α : Type} {p : α → Bool} {as : List α} {i : Nat}
    (h : as.findIdx? p = some i) (a : α) : as.set i a = updateFirst p (fun _ => a) as := by
  induction as generalizing i with
  | nil => cases h
  | cons b rest ih =>
      rw [List.findIdx?_cons] at h
      rw [updateFirst_cons]
      split at h
      · next hb =>
        obtain rfl := Option.some.inj h
        rw [if_pos hb, List.set_cons_zero]
      · next hb =>
        obtain ⟨j, hj, rfl⟩ := Option.map_eq_some_iff.1 h
        rw [if_neg hb, List.set_cons_succ, ih hj]

namespace Draft

variable {d d' : Draft} {s : Statement} {table name : String} {e : Entity}

theorem entityNamed?_of_findIdx? {index : Nat}
    (hindex : d.entities.findIdx? (fun e => Text.sameName e.name name) = some index)
    (hentity : d.entities[index]? = some e) : d.schema.entityNamed? name = some e := by
  rw [Schema.entityNamed?, schema, List.find?_eq_bind_findIdx?_getElem?, hindex, Option.bind_some,
    hentity]

/-- An alteration is seen under the name of the table, and nowhere else. -/
theorem entityNamed?_set {index : Nat} {e' : Entity}
    (hindex : d.entities.findIdx? (fun e => Text.sameName e.name name) = some index)
    (hentity : d.entities[index]? = some e) (hname : e'.name = e.name) (table : String) :
    Schema.entityNamed? { entities := d.entities.set index e' } table =
      if Text.sameName name table then some e' else d.schema.entityNamed? table := by
  have hfound := entityNamed?_of_findIdx? hindex hentity
  have hmatch : Text.sameName e'.name name = true := by
    have hsame := List.find?_some hfound
    rwa [hname]
  rw [set_findIdx?_eq hindex]
  split
  · next hsame =>
    rw [← Schema.entityNamed?_congr hsame]
    refine (find?_updateFirst (fun e : Entity => Text.sameName e.name name) (fun _ => e')
      (fun _ _ => hmatch) d.entities).trans ?_
    rw [Schema.entityNamed?, schema] at hfound
    rw [hfound, Option.map_some]
  · next hsame =>
    have hne : Text.foldAscii table ≠ Text.foldAscii name := fun heq =>
      hsame (beq_iff_eq.2 heq.symm)
    have hkey : ∀ e : Entity, Text.foldAscii e.name = Text.foldAscii name →
        Text.foldAscii e'.name = Text.foldAscii name := fun _ _ => beq_iff_eq.1 hmatch
    exact find?_updateFirst_key_of_ne hne hkey d.entities

/-- A table that stands grows by what a statement declares for it. -/
theorem grows_add (he : d.schema.entityNamed? table = some e) (s : Statement) :
    ∃ e', (d.add s).schema.entityNamed? table = some e' ∧
      e.Grows (s.addedKeyNames table) e' := by
  have hsame : ∃ e', d.schema.entityNamed? table = some e' ∧ e.Grows (s.addedKeyNames table) e' :=
    ⟨e, he, .refl _ e⟩
  cases hkind : s.kind with
  | createTable rest =>
      have htakes := d.takes_createTable (by rw [Statement.createsTable, hkind]) rest
      rw [add, hkind]
      dsimp only
      generalize d.createTable s rest = d' at htakes
      cases htakes with
      | table _ new _ _ =>
          refine ⟨e, ?_, .refl _ e⟩
          rw [schema, Schema.entityNamed?] at he ⊢
          rw [List.find?_append, he, Option.some_or]
      | leftOut | repeated | unmatched | passed => exact hsame
      | altered alters =>
          rw [Statement.createsTable, hkind] at alters
          cases alters
  | alterTable rest =>
      rw [add, hkind]
      dsimp only
      rw [alterTable]
      split
      · exact hsame
      · next name actions hname =>
        split
        · exact hsame
        · next index hindex =>
          split
          · exact hsame
          · next entity hentity =>
            have hgrows : TableDraft.Grows (actions.splitTopLevel.flatMap Clause.addedKeyNames)
                { entity } (actions.splitTopLevel.foldl (TableDraft.addAction index s.line)
                  { entity }) :=
              TableDraft.grows_addActions
                (fun action haction _ hkey => List.mem_flatMap.2 ⟨action, haction, hkey⟩) _
            have hextends : TableDraft.Extends index (fun _ => True) { entity }
                (actions.splitTopLevel.foldl (TableDraft.addAction index s.line) { entity }) :=
              TableDraft.extends_addActions (fun _ _ _ _ _ _ => trivial) _
            rw [Statement.addedKeyNames, Statement.altered?_of_kind hkind hname]
            dsimp only [schema]
            rw [entityNamed?_set hindex hentity hextends.name_eq]
            split
            · next hsame =>
              have hfound := entityNamed?_of_findIdx? hindex hentity
              rw [Schema.entityNamed?_congr hsame, he] at hfound
              obtain rfl := Option.some.inj hfound
              exact ⟨_, rfl, hgrows.toGrows⟩
            · exact ⟨e, he, .refl _ e⟩
  | other =>
      rw [add, hkind]
      exact hsame

theorem grows_foldl_add (he : d.schema.entityNamed? table = some e) (statements : List Statement) :
    ∃ e', (statements.foldl add d).schema.entityNamed? table = some e' ∧
      e.Grows (statements.flatMap fun s => s.addedKeyNames table) e' := by
  induction statements generalizing d e with
  | nil => exact ⟨e, he, .refl _ e⟩
  | cons s rest ih =>
      obtain ⟨e', he', hfirst⟩ := grows_add he s
      obtain ⟨e'', he'', hrest⟩ := ih he'
      rw [List.flatMap_cons]
      exact ⟨e'', he'', (hfirst.mono (List.subset_append_left _ _)).trans
        (hrest.mono (List.subset_append_right _ _))⟩

/-- Warnings and foreign keys are kept. -/
theorem Takes.kept (h : d.Takes s d') :
    d.warnings <+: d'.warnings ∧ d.pendingKeys <+: d'.pendingKeys := by
  cases h with
  | table | altered => exact ⟨List.prefix_append _ _, List.prefix_append _ _⟩
  | leftOut | repeated | unmatched => exact ⟨List.prefix_append _ _, List.prefix_refl _⟩
  | passed => exact ⟨List.prefix_refl _, List.prefix_refl _⟩

theorem kept_foldl_add (d : Draft) (statements : List Statement) :
    d.warnings <+: (statements.foldl add d).warnings ∧
      d.pendingKeys <+: (statements.foldl add d).pendingKeys := by
  induction statements generalizing d with
  | nil => exact ⟨List.prefix_refl _, List.prefix_refl _⟩
  | cons s rest ih =>
      obtain ⟨hwarnings, hkeys⟩ := (d.takes_add s).kept
      obtain ⟨hwarnings', hkeys'⟩ := ih (d.add s)
      exact ⟨hwarnings.trans hwarnings', hkeys.trans hkeys'⟩

/-- A table of the draft is in the schema of its links, but for its foreign key view. -/
theorem entityNamed?_linked (he : d.schema.entityNamed? table = some e) :
    ∃ e', d.linked.syncForeignKeys.entityNamed? table = some e' ∧ e'.bare = e.bare := by
  have hbare := congrArg (Schema.entityNamed? · table) (Schema.bare_syncForeignKeys d.linked)
  have hlinked : d.linked.entityNamed? table = some e := he
  simp only [Schema.entityNamed?_bare] at hbare
  rwa [hlinked, Option.map_some, Option.map_eq_some_iff] at hbare

/-- With a table an import gives a schema, and keeps all warnings. -/
theorem finish_of_entityNamed? (he : d.schema.entityNamed? table = some e) :
    ∃ report, d.finish = .ok report ∧ report.schema = d.linked.syncForeignKeys ∧
      d.warnings <+: report.warnings := by
  have hne : d.entities ≠ [] := List.ne_nil_of_mem (List.mem_of_find?_eq_some he)
  exact ⟨_, finish_eq hne, rfl, List.prefix_append _ _⟩

end Draft

end Ddl

end EntityRelation
