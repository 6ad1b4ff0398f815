import EntityRelation.Proofs.Ddl.Anonymous
import EntityRelation.Proofs.Ddl.TableExtension

/-!
# The tables of a script that alters none

Where no table is altered and no name is taken, a statement adds to a draft what it comes to by
itself (`Statement.reading`), so the draft of a script can be read with every foreign key beside
its table (`Reading.foldl_add_draft`). What a statement comes to depends on its index in nothing but
ids and positions (`Statement.alike_reading`), hence the order of statements is the order of what
they give, and nothing more.
-/

namespace EntityRelation

namespace Ddl

/-! ## Definitions without columns -/

theorem TableDraft.pendingKeys_addColumn {index line : Nat} {d : TableDraft} {clause : Clause}
    (h : (d.addColumn index line clause).entity.fields = []) :
    (d.addColumn index line clause).pendingKeys = d.pendingKeys := by
  rw [addColumn] at h ⊢
  split
  · rfl
  · next column hcolumn =>
    rw [hcolumn] at h
    dsimp only at h
    split
    · rfl
    · next hnew =>
      rw [if_neg hnew] at h
      exact absurd h (by simp [pushColumn])

/-- A key comes with a column; so without a column there is none. -/
theorem TableDraft.pendingKeys_addColumns {index line : Nat} {d : TableDraft}
    {clauses : List Clause} (h : (d.addColumns index line clauses).entity.fields = []) :
    (d.addColumns index line clauses).pendingKeys = d.pendingKeys := by
  rw [addColumns] at h ⊢
  generalize clauses.filter (fun clause => (TableConstraint.ofClause? clause).isNone) = columns
    at h ⊢
  induction columns generalizing d with
  | nil => rfl
  | cons clause rest ih =>
      have hrest : Extends index (fun _ => True) (d.addColumn index line clause)
          ((clause :: rest).foldl (TableDraft.addColumn index line) d) :=
        extends_foldl (fun d clause _ => extends_addColumn (fun _ _ => trivial) d) _
      have hfirst : (d.addColumn index line clause).entity.fields = [] := by
        by_contra hne
        exact hrest.fields_ne_nil hne h
      exact (ih h).trans (pendingKeys_addColumn hfirst)

/-! ## What one statement comes to -/

/-- What has been read so far, where every foreign key stands with its table. -/
structure Reading where
  tables : List TableDraft := []
  skipped : List Skipped := []
  warnings : List Warning := []

/-- What a table definition comes to at an index. -/
def Statement.definition (index : Nat) (s : Statement) (name : String) (body : Clause) : Reading :=
  let columns := (Draft.newTable index s name).addColumns index s.line body.splitTopLevel
  if columns.entity.fields.isEmpty then
    { skipped := [⟨s.line, .noUsableColumns name, s.snippet⟩], warnings := columns.warnings }
  else
    let table := columns.applyConstraints s.line body.splitTopLevel
    { tables := [table], warnings := table.warnings }

/-- Whether a statement alters a table. -/
def Statement.altersTable (s : Statement) : Bool :=
  match s.kind with
  | .alterTable _ => true
  | _ => false

/-- How a statement that creates a table begins, if it is one. -/
def Statement.header? (s : Statement) : Option (Except TableFault (String × Clause)) :=
  match s.kind with
  | .createTable rest => some (tableHeader rest)
  | _ => none

/-- The name of the table that a statement creates, if its beginning can be read. -/
def Statement.createdName? (s : Statement) : Option String :=
  match s.header? with
  | some (.ok (name, _)) => some name
  | _ => none

/-- What a statement comes to at an index, unless it alters a table or repeats a name. -/
def Statement.reading (index : Nat) (s : Statement) : Reading :=
  match s.header? with
  | none => {}
  | some (.error fault) => { skipped := [⟨s.line, fault, s.snippet⟩] }
  | some (.ok (name, body)) => s.definition index name body

/-- Two readings that differ in nothing but ids and positions. -/
structure Reading.Alike (r r' : Reading) : Prop where
  tables : r.tables.map TableDraft.anonymous = r'.tables.map TableDraft.anonymous
  skipped : r.skipped = r'.skipped
  warnings : r.warnings = r'.warnings

namespace Statement

variable (s : Statement) (index index' : Nat)

theorem alike_definition (name : String) (body : Clause) :
    (s.definition index name body).Alike (s.definition index' name body) := by
  have hnew : (Draft.newTable index s name).Alike (Draft.newTable index' s name) :=
    ⟨rfl, rfl, rfl, rfl⟩
  have hcolumns := hnew.addColumns index index' s.line body.splitTopLevel
  have htable := hcolumns.applyConstraints s.line body.splitTopLevel
  rw [definition, definition]
  dsimp only
  rw [hcolumns.isEmpty_fields]
  split
  · exact ⟨rfl, rfl, hcolumns.warnings⟩
  · exact ⟨congrArg (fun table => [table]) htable.anonymous_eq, rfl, htable.warnings⟩

/-- What a statement comes to depends on its index in nothing but ids and positions. -/
theorem alike_reading : (s.reading index).Alike (s.reading index') := by
  rw [reading, reading]
  cases s.header? with
  | none => exact ⟨rfl, rfl, rfl⟩
  | some header =>
      cases header with
      | error fault => exact ⟨rfl, rfl, rfl⟩
      | ok table => exact s.alike_definition index index' table.1 table.2

/-- The table of a definition is a new one after its clauses. -/
theorem extends_of_mem_definition {name : String} {body : Clause} {t : TableDraft}
    (ht : t ∈ (s.definition index name body).tables) :
    TableDraft.Extends index (fun _ => True) (Draft.newTable index s name) t := by
  rw [definition] at ht
  dsimp only at ht
  split at ht
  · cases ht
  · rw [List.mem_singleton.1 ht]
    exact TableDraft.extends_definition (fun _ _ _ _ => trivial) _

variable {s index}

theorem child_eq_of_mem_reading {t : TableDraft} (ht : t ∈ (s.reading index).tables) :
    ∀ key ∈ t.pendingKeys, key.child = t.entity.id := by
  rw [reading] at ht
  split at ht
  · cases ht
  · cases ht
  · exact (extends_of_mem_definition s index ht).child_eq fun _ h => absurd h List.not_mem_nil

theorem names_definition_sublist (name : String) (body : Clause) :
    ((s.definition index name body).tables.map fun t => Text.foldAscii t.entity.name).Sublist
      [Text.foldAscii name] := by
  have hname : ∀ t ∈ (s.definition index name body).tables, t.entity.name = name :=
    fun t ht => (s.extends_of_mem_definition index ht).name_eq
  rw [definition] at hname ⊢
  dsimp only at hname ⊢
  split
  · exact List.nil_sublist _
  · next hfields =>
    rw [if_neg hfields] at hname
    rw [List.map_singleton, hname _ List.mem_cons_self]

/-- A statement gives at most one table, of the name that it creates. -/
theorem names_reading_sublist :
    ((s.reading index).tables.map fun t => Text.foldAscii t.entity.name).Sublist
      (s.createdName?.toList.map Text.foldAscii) := by
  rw [reading, createdName?]
  cases s.header? with
  | none => exact List.nil_sublist _
  | some header =>
      cases header with
      | error fault => exact List.nil_sublist _
      | ok table => exact names_definition_sublist table.1 table.2

end Statement

/-! ## What a script comes to -/

namespace Reading

/-- Two readings, one after the other. -/
def append (r r' : Reading) : Reading :=
  ⟨r.tables ++ r'.tables, r.skipped ++ r'.skipped, r.warnings ++ r'.warnings⟩

/-- The reading after a statement. -/
def add (r : Reading) (s : Statement) : Reading :=
  r.append (s.reading r.tables.length)

/-- The draft that does not tell which key belongs to which table. -/
def draft (r : Reading) : Draft :=
  ⟨r.tables.map TableDraft.entity, r.tables.flatMap TableDraft.pendingKeys, r.skipped, r.warnings⟩

/-- The names of the tables so far, and of those that are to come, are distinct. -/
def Fresh (r : Reading) (statements : List Statement) : Prop :=
  (r.tables.map (fun t => Text.foldAscii t.entity.name) ++
    (statements.filterMap Statement.createdName?).map Text.foldAscii).Nodup

variable {r : Reading} {s : Statement} {statements : List Statement}

theorem Fresh.add (h : r.Fresh (s :: statements)) : (r.add s).Fresh statements := by
  have hnames : (s :: statements).filterMap Statement.createdName? =
      s.createdName?.toList ++ statements.filterMap Statement.createdName? := by
    rw [List.filterMap_cons]
    cases s.createdName? with
    | none => rfl
    | some name => rfl
  rw [Fresh, hnames, List.map_append, ← List.append_assoc] at h
  refine h.sublist (List.Sublist.append ?_ (List.Sublist.refl _))
  rw [Reading.add, append, List.map_append]
  exact (List.Sublist.refl _).append Statement.names_reading_sublist

/-- The name of a table that is to come is not taken. -/
theorem Fresh.entityNamed?_eq (h : r.Fresh (s :: statements)) {name : String}
    (hname : s.createdName? = some name) : r.draft.schema.entityNamed? name = none := by
  rw [Schema.entityNamed?, List.find?_eq_none]
  intro e he hsame
  obtain ⟨t, ht, rfl⟩ := List.mem_map.1 he
  have hmem : Text.foldAscii name ∈
      ((s :: statements).filterMap Statement.createdName?).map Text.foldAscii := by
    rw [List.filterMap_cons_some hname]
    exact List.mem_cons_self
  have htaken := List.mem_map_of_mem (f := fun t : TableDraft => Text.foldAscii t.entity.name) ht
  exact List.disjoint_of_nodup_append h htaken ((beq_iff_eq.1 hsame) ▸ hmem)

theorem addTable_draft {name : String} (hnew : r.draft.schema.entityNamed? name = none)
    (body : Clause) :
    r.draft.addTable s name body = (r.append (s.definition r.tables.length name body)).draft := by
  have hlength : r.draft.entities.length = r.tables.length := List.length_map _
  rw [Draft.addTable, hnew, if_neg (by simp), Statement.definition, hlength]
  dsimp only
  split
  · next hfields =>
    have hkeys := TableDraft.pendingKeys_addColumns (List.isEmpty_iff.1 hfields)
    rw [Draft.absorb, Draft.skip, hkeys]
    simp [draft, append, Draft.newTable]
  · simp [draft, append, Draft.absorb]

/-- A statement adds to the draft what it comes to by itself. -/
theorem add_draft (hs : s.altersTable = false) (h : r.Fresh (s :: statements)) :
    r.draft.add s = (r.add s).draft := by
  have hname : ∀ name, s.createdName? = some name → r.draft.schema.entityNamed? name = none :=
    fun name => h.entityNamed?_eq
  rw [Statement.altersTable] at hs
  rw [Statement.createdName?] at hname
  rw [Draft.add, Reading.add, Statement.reading]
  rw [Statement.header?] at hname ⊢
  cases hkind : s.kind with
  | createTable rest =>
      rw [hkind] at hname
      dsimp only at hname ⊢
      rw [Draft.createTable]
      cases hheader : tableHeader rest with
      | error fault => simp [draft, append, Draft.skip]
      | ok table =>
          rw [hheader] at hname
          exact addTable_draft (hname table.1 rfl) table.2
  | alterTable rest =>
      rw [hkind] at hs
      cases hs
  | other => simp [draft, append]

/-- The draft of a script that alters no table and gives no name twice. -/
theorem foldl_add_draft (hs : ∀ s ∈ statements, s.altersTable = false)
    (h : r.Fresh statements) :
    statements.foldl Draft.add r.draft = (statements.foldl add r).draft := by
  induction statements generalizing r with
  | nil => rfl
  | cons s rest ih =>
      rw [List.foldl_cons, List.foldl_cons, add_draft (hs s List.mem_cons_self) h]
      exact ih (fun t ht => hs t (List.mem_cons_of_mem s ht)) h.add

/-- What a script comes to is what its statements come to, but for ids and positions. -/
theorem alike_foldl_add (statements : List Statement) (r : Reading) :
    (statements.foldl add r).Alike
      ⟨r.tables ++ statements.flatMap fun s => (s.reading 0).tables,
        r.skipped ++ statements.flatMap fun s => (s.reading 0).skipped,
        r.warnings ++ statements.flatMap fun s => (s.reading 0).warnings⟩ := by
  induction statements generalizing r with
  | nil => constructor <;> simp
  | cons s rest ih =>
      have hrest := ih (r.add s)
      have hfirst := s.alike_reading r.tables.length 0
      constructor
      · rw [List.foldl_cons, hrest.tables]
        simp [Reading.add, append, hfirst.tables]
      · rw [List.foldl_cons, hrest.skipped]
        simp [Reading.add, append, hfirst.skipped]
      · rw [List.foldl_cons, hrest.warnings]
        simp [Reading.add, append, hfirst.warnings]

theorem child_eq_of_mem_foldl_add
    (h : ∀ t ∈ r.tables, ∀ key ∈ t.pendingKeys, key.child = t.entity.id)
    (statements : List Statement) :
    ∀ t ∈ (statements.foldl add r).tables, ∀ key ∈ t.pendingKeys, key.child = t.entity.id := by
  induction statements generalizing r with
  | nil => exact h
  | cons s rest ih =>
      refine ih fun t ht => ?_
      rcases List.mem_append.1 ht with hold | hnew
      · exact h t hold
      · exact Statement.child_eq_of_mem_reading hnew

end Reading

end Ddl

end EntityRelation
