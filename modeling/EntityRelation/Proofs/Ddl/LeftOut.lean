import EntityRelation.Proofs.Ddl.Accounting

/-!
# A definition that is left out disturbs nothing

A table definition is left out when its beginning cannot be read, or when it begins a new table and
no clause gives it a column (`Draft.leavesOut_iff_fault`). All that stays of it is an entry among the
statements left out and a warning for each of its columns. What has been reported has no part in
what later statements do (`Draft.add_behind`), so they do what they would have done without it, and
the schema is the same down to ids and positions (`importStatements_leftOut`).
-/

namespace EntityRelation

namespace Ddl

/-! ## Definitions without columns -/

/-- No clause defines a column that can be read. -/
def Columnless (clauses : List Clause) : Prop :=
  ∀ clause ∈ clauses, TableConstraint.ofClause? clause = none →
    ∃ fault, Column.ofClause clause = .error fault

/-- The warnings about the column definitions of a table that cannot be read. -/
def unreadColumns (line : Nat) (table : String) (clauses : List Clause) : List Warning :=
  clauses.filterMap fun clause =>
    match TableConstraint.ofClause? clause, Column.ofClause clause with
    | none, .error fault => some ⟨line, .columnSkipped table fault⟩
    | _, _ => none

theorem mem_unreadColumns {line : Nat} {table : String} {clauses : List Clause} {w : Warning} :
    w ∈ unreadColumns line table clauses ↔
      ∃ clause ∈ clauses, TableConstraint.ofClause? clause = none ∧
        ∃ fault, Column.ofClause clause = .error fault ∧ w = ⟨line, .columnSkipped table fault⟩ := by
  rw [unreadColumns, List.mem_filterMap]
  refine exists_congr fun clause => and_congr_right fun _ => ?_
  cases TableConstraint.ofClause? clause with
  | some constraint => simp
  | none =>
      cases Column.ofClause clause with
      | ok column => simp
      | error fault => simp [eq_comm]

/-- The warnings about the column definitions of a statement that cannot be read. -/
def Statement.unreadColumns (s : Statement) : List Warning :=
  match s.header? with
  | some (.ok (name, body)) => Ddl.unreadColumns s.line name body.splitTopLevel
  | _ => []

/-- The warning is about a column definition of the statement that cannot be read. -/
def Statement.WarnsOfColumn (s : Statement) (w : Warning) : Prop :=
  ∃ name body clause fault, s.header? = some (.ok (name, body)) ∧ clause ∈ body.splitTopLevel ∧
    TableConstraint.ofClause? clause = none ∧ Column.ofClause clause = .error fault ∧
    w = ⟨s.line, .columnSkipped name fault⟩

theorem Statement.warnsOfColumn_of_mem {s : Statement} {w : Warning} (h : w ∈ s.unreadColumns) :
    s.WarnsOfColumn w := by
  rw [Statement.unreadColumns] at h
  split at h
  · next name body hheader =>
    obtain ⟨clause, hmem, hcolumn, fault, hfault, rfl⟩ := mem_unreadColumns.1 h
    exact ⟨name, body, clause, fault, hheader, hmem, hcolumn, hfault, rfl⟩
  · exact absurd h List.not_mem_nil

namespace TableDraft

variable {index line : Nat}

theorem addColumns_cons_constraint {clause : Clause} {constraint : TableConstraint}
    (h : TableConstraint.ofClause? clause = some constraint) (rest : List Clause)
    (d : TableDraft) : d.addColumns index line (clause :: rest) = d.addColumns index line rest := by
  rw [addColumns, List.filter_cons_of_neg (by simp [h]), addColumns]

theorem addColumns_cons_column {clause : Clause} (h : TableConstraint.ofClause? clause = none)
    (rest : List Clause) (d : TableDraft) :
    d.addColumns index line (clause :: rest) =
      (d.addColumn index line clause).addColumns index line rest := by
  rw [addColumns, List.filter_cons_of_pos (by simp [h]), List.foldl_cons, addColumns]

/-- Clauses without a column give a warning for each column definition, and nothing else. -/
theorem addColumns_of_columnless {clauses : List Clause} (h : Columnless clauses)
    (d : TableDraft) :
    d.addColumns index line clauses =
      { d with warnings := d.warnings ++ unreadColumns line d.entity.name clauses } := by
  induction clauses generalizing d with
  | nil => exact congrArg (TableDraft.mk d.entity d.pendingKeys) (List.append_nil _).symm
  | cons clause rest ih =>
      have hrest : Columnless rest := fun c hc => h c (List.mem_cons_of_mem clause hc)
      cases hclause : TableConstraint.ofClause? clause with
      | some constraint =>
          rw [addColumns_cons_constraint hclause, ih hrest, unreadColumns, unreadColumns,
            List.filterMap_cons_none (by rw [hclause])]
      | none =>
          obtain ⟨fault, hfault⟩ := h clause List.mem_cons_self hclause
          have hwarn : d.addColumn index line clause =
              d.warn line (.columnSkipped d.entity.name fault) := by
            rw [addColumn, hfault]
          rw [addColumns_cons_column hclause, hwarn, ih hrest, unreadColumns, unreadColumns,
            List.filterMap_cons_some (by rw [hclause, hfault])]
          simp [warn]

theorem fields_addColumn_ne_nil {clause : Clause} {column : Column}
    (h : Column.ofClause clause = .ok column) (d : TableDraft) :
    (d.addColumn index line clause).entity.fields ≠ [] := by
  rw [addColumn, h]
  dsimp only
  split
  · next htaken =>
    obtain ⟨f, hf⟩ := Option.isSome_iff_exists.1 htaken
    exact List.ne_nil_of_mem (List.mem_of_find?_eq_some hf)
  · rw [pushColumn]
    simp

/-- Where no column comes of them, the clauses are without a column. -/
theorem columnless_of_fields_eq_nil {clauses : List Clause} {d : TableDraft}
    (h : (d.addColumns index line clauses).entity.fields = []) : Columnless clauses := by
  induction clauses generalizing d with
  | nil => exact fun _ hc => absurd hc List.not_mem_nil
  | cons clause rest ih =>
      cases hclause : TableConstraint.ofClause? clause with
      | some constraint =>
          rw [addColumns_cons_constraint hclause] at h
          refine List.forall_mem_cons.2 ⟨fun hnone => ?_, ih h⟩
          rw [hclause] at hnone
          cases hnone
      | none =>
          rw [addColumns_cons_column hclause] at h
          refine List.forall_mem_cons.2 ⟨fun _ => ?_, ih h⟩
          cases hcolumn : Column.ofClause clause with
          | error fault => exact ⟨fault, rfl⟩
          | ok column =>
              have hmore : Extends index (fun _ => True) (d.addColumn index line clause)
                  ((d.addColumn index line clause).addColumns index line rest) :=
                extends_foldl (fun d _ _ => extends_addColumn (fun _ _ => trivial) d) _
              exact absurd h (hmore.fields_ne_nil (fields_addColumn_ne_nil hcolumn d))

end TableDraft

/-! ## Why a statement is left out -/

namespace Draft

variable {draft : Draft} {s : Statement} {fault : TableFault}

instance : Decidable (draft.LeavesOut s fault) :=
  inferInstanceAs (Decidable ((draft.add s).skipped = _))

theorem add_of_fault (h : s.header? = some (.error fault)) : draft.add s = draft.skip s fault := by
  cases hkind : s.kind with
  | createTable rest =>
      rw [Statement.header?, hkind] at h
      rw [add, hkind]
      dsimp only
      rw [createTable, Option.some.inj h]
  | alterTable rest =>
      rw [Statement.header?, hkind] at h
      cases h
  | other =>
      rw [Statement.header?, hkind] at h
      cases h

/-- A statement that creates no table leaves nothing out. -/
theorem skipped_add_of_other (h : s.header? = none) : (draft.add s).skipped = draft.skipped := by
  have hother : s.createsTable = false := by
    cases hkind : s.kind with
    | createTable rest =>
        rw [Statement.header?, hkind] at h
        cases h
    | alterTable rest => rw [Statement.createsTable, hkind]
    | other => rw [Statement.createsTable, hkind]
  have htakes := draft.takes_add s
  generalize draft.add s = d at htakes
  cases htakes with
  | leftOut creates => simp [hother] at creates
  | _ => rfl

/-- A new table without columns is left out, with a warning for each column definition. -/
theorem addTable_of_columnless {name : String} {body : Clause}
    (hnew : draft.schema.entityNamed? name = none) (h : Columnless body.splitTopLevel) :
    draft.addTable s name body =
      { draft with
        warnings := draft.warnings ++ unreadColumns s.line name body.splitTopLevel
        skipped := draft.skipped ++ [⟨s.line, .noUsableColumns name, s.snippet⟩] } := by
  have hnone : ¬(draft.schema.entityNamed? name).isSome = true := by simp [hnew]
  rw [addTable, if_neg hnone]
  dsimp only
  rw [TableDraft.addColumns_of_columnless h]
  simp [newTable, absorb, skip]

/-- A table definition is left out when it cannot be begun, or when it begins a new table without a
column. -/
theorem leavesOut_iff_fault : draft.LeavesOut s fault ↔
    s.header? = some (.error fault) ∨
      ∃ name body, s.header? = some (.ok (name, body)) ∧ fault = .noUsableColumns name ∧
        draft.schema.entityNamed? name = none ∧ Columnless body.splitTopLevel := by
  constructor
  · intro h
    rw [LeavesOut] at h
    cases hheader : s.header? with
    | none =>
        rw [skipped_add_of_other hheader, List.self_eq_append_right] at h
        cases h
    | some header =>
        cases header with
        | error cause =>
            rw [add_of_fault hheader] at h
            have hone := List.append_cancel_left h
            simp only [List.cons.injEq, Skipped.mk.injEq, true_and, and_true] at hone
            exact .inl (by rw [hone])
        | ok table =>
            obtain ⟨name, body⟩ := table
            rw [add_of_header? hheader, addTable] at h
            split at h
            · exact absurd h (by simp [warn])
            · next hnew =>
              rw [Option.isSome_iff_ne_none, not_not] at hnew
              dsimp only at h
              split at h
              · next hnone =>
                have hone := List.append_cancel_left h
                simp only [List.cons.injEq, Skipped.mk.injEq, true_and, and_true] at hone
                exact .inr ⟨name, body, rfl, hone.symm, hnew,
                  TableDraft.columnless_of_fields_eq_nil (List.isEmpty_iff.1 hnone)⟩
              · exact absurd h (by simp [absorb])
  · rintro (hheader | ⟨name, body, hheader, rfl, hnew, hcolumnless⟩)
    · rw [LeavesOut, add_of_fault hheader]
      rfl
    · rw [LeavesOut, add_of_header? hheader, addTable_of_columnless hnew hcolumnless]

/-! ## What has been reported before -/

/-- The draft behind what has been left out and warned about before. -/
def behind (draft : Draft) (skipped : List Skipped) (warnings : List Warning) : Draft :=
  { draft with skipped := skipped ++ draft.skipped, warnings := warnings ++ draft.warnings }

variable (skipped : List Skipped) (warnings : List Warning)

@[simp]
theorem entities_behind : (draft.behind skipped warnings).entities = draft.entities := rfl

@[simp]
theorem schema_behind : (draft.behind skipped warnings).schema = draft.schema := rfl

@[simp]
theorem warn_behind (line : Nat) (cause : WarningCause) :
    (draft.behind skipped warnings).warn line cause =
      (draft.warn line cause).behind skipped warnings := by
  simp [warn, behind]

@[simp]
theorem skip_behind (fault : TableFault) :
    (draft.behind skipped warnings).skip s fault =
      (draft.skip s fault).behind skipped warnings := by
  simp [skip, behind]

@[simp]
theorem absorb_behind (table : TableDraft) :
    (draft.behind skipped warnings).absorb table =
      (draft.absorb table).behind skipped warnings := by
  simp [absorb, behind]

/-- What has been reported has no part in what a statement does. -/
theorem add_behind :
    (draft.behind skipped warnings).add s = (draft.add s).behind skipped warnings := by
  rw [add, add]
  cases s.kind with
  | createTable rest =>
      simp only [createTable, addTable, warn_behind, skip_behind, absorb_behind, entities_behind,
        schema_behind]
      split
      · rfl
      · split
        · rfl
        · split <;> rfl
  | alterTable rest =>
      simp only [alterTable, warn_behind, absorb_behind, entities_behind]
      split
      · rfl
      · split
        · rfl
        · split <;> rfl
  | other => rfl

theorem foldl_add_behind (statements : List Statement) (draft : Draft) :
    statements.foldl add (draft.behind skipped warnings) =
      (statements.foldl add draft).behind skipped warnings := by
  induction statements generalizing draft with
  | nil => rfl
  | cons s rest ih => rw [List.foldl_cons, List.foldl_cons, add_behind, ih]

/-- The draft with nothing left out and no warnings. -/
def silent (draft : Draft) : Draft :=
  { draft with skipped := [], warnings := [] }

theorem behind_silent (draft : Draft) :
    draft.silent.behind draft.skipped draft.warnings = draft := by
  simp [behind, silent]

/-- All that a definition leaves behind when it is left out is reported. -/
theorem add_of_leavesOut (h : draft.LeavesOut s fault) :
    draft.add s = draft.silent.behind (draft.skipped ++ [⟨s.line, fault, s.snippet⟩])
      (draft.warnings ++ s.unreadColumns) := by
  rcases leavesOut_iff_fault.1 h with hheader | ⟨name, body, hheader, rfl, hnew, hcolumnless⟩
  · rw [add_of_fault hheader, Statement.unreadColumns, hheader]
    simp [skip, behind, silent]
  · rw [add_of_header? hheader, addTable_of_columnless hnew hcolumnless, Statement.unreadColumns,
      hheader]
    simp [behind, silent]

end Draft

/-! ## The whole script -/

/-- A report that tells of one more definition left out, `s` after the statements `before`, and is
otherwise the same. -/
structure TellsOfLeftOut (before : List Statement) (s : Statement) (fault : TableFault)
    (report report' : ImportReport) : Prop where
  schema : report'.schema = report.schema
  skipped : ∃ later, report.skipped = (before.foldl Draft.add {}).skipped ++ later ∧
    report'.skipped =
      (before.foldl Draft.add {}).skipped ++ ⟨s.line, fault, s.snippet⟩ :: later
  warnings : ∃ own later, report.warnings = (before.foldl Draft.add {}).warnings ++ later ∧
    report'.warnings = (before.foldl Draft.add {}).warnings ++ own ++ later ∧
    ∀ w ∈ own, s.WarnsOfColumn w

/-- A definition that is left out changes neither the tables nor what becomes of the other
statements. -/
theorem importStatements_leftOut {before after : List Statement} {s : Statement}
    {fault : TableFault} {report : ImportReport}
    (hreport : importStatements (before ++ after) = .ok report)
    (hleft : (before.foldl Draft.add {}).LeavesOut s fault) :
    ∃ report', importStatements (before ++ s :: after) = .ok report' ∧
      TellsOfLeftOut before s fault report report' := by
  generalize hfront : before.foldl Draft.add {} = front at hleft
  have hwithout : (before ++ after).foldl Draft.add {} =
      (after.foldl Draft.add front.silent).behind front.skipped front.warnings := by
    rw [List.foldl_append, hfront, ← Draft.foldl_add_behind, Draft.behind_silent]
  have hwith : (before ++ s :: after).foldl Draft.add {} =
      (after.foldl Draft.add front.silent).behind (front.skipped ++ [⟨s.line, fault, s.snippet⟩])
        (front.warnings ++ s.unreadColumns) := by
    rw [List.foldl_append, hfront, List.foldl_cons, Draft.add_of_leavesOut hleft,
      Draft.foldl_add_behind]
  generalize after.foldl Draft.add front.silent = draft at hwithout hwith
  rw [importStatements, hwithout] at hreport
  have hsome : draft.entities ≠ [] := (Draft.of_finish hreport).1
  obtain ⟨hschema, -, hskipped, hwarnings⟩ := Draft.report_of_finish hreport
  obtain ⟨report', hreport'⟩ : ∃ report', importStatements (before ++ s :: after) = .ok report' :=
    ⟨_, by rw [importStatements, hwith]; exact Draft.finish_eq hsome⟩
  refine ⟨report', hreport', ?_⟩
  rw [importStatements, hwith] at hreport'
  obtain ⟨hschema', -, hskipped', hwarnings'⟩ := Draft.report_of_finish hreport'
  refine ⟨hschema'.trans hschema.symm, ⟨draft.skipped, ?_⟩, ?_⟩
  · rw [hfront, hskipped, hskipped']
    simp [Draft.behind]
  · refine ⟨s.unreadColumns, draft.warnings ++ draft.resolution.warnings, ?_, ?_,
      fun w => Statement.warnsOfColumn_of_mem⟩
    · rw [hfront, hwarnings]
      exact List.append_assoc _ _ _
    · rw [hfront, hwarnings']
      exact List.append_assoc _ _ _

/-- A table, a definition whose only column has no type, and a table with a key of each. -/
def gardenStatements : List Statement :=
  ["CREATE TABLE plot (nr INT PRIMARY KEY)", "CREATE TABLE fruit (weight, CHECK (weight > 0))",
    "CREATE TABLE tree (plot INT REFERENCES plot, fruit INT REFERENCES fruit)"].flatMap fun sql =>
      match Lexer.lexemes sql with
      | .error _ => []
      | .ok lexemes => Statement.ofLexemes lexemes

theorem importStatements_leftOut_garden : ∃ plot fruit tree report report',
    gardenStatements = [plot, fruit, tree] ∧ importStatements [plot, tree] = .ok report ∧
      ([plot].foldl Draft.add {}).LeavesOut fruit (.noUsableColumns "fruit") ∧
      importStatements [plot, fruit, tree] = .ok report' ∧
      TellsOfLeftOut [plot] fruit (.noUsableColumns "fruit") report report' := by
  have hlength : gardenStatements.length = 3 := by
    decide +kernel
  have hok : (importStatements (gardenStatements.eraseIdx 1)).isOk = true := by
    decide +kernel
  have hfruit : (gardenStatements[1]?.all fun fruit => decide
      (((gardenStatements.take 1).foldl Draft.add {}).LeavesOut fruit
        (.noUsableColumns "fruit"))) = true := by
    decide +kernel
  obtain ⟨plot, fruit, tree, hgarden⟩ := List.length_eq_three.1 hlength
  rw [hgarden] at hok hfruit
  have hleft : ([plot].foldl Draft.add {}).LeavesOut fruit (.noUsableColumns "fruit") :=
    of_decide_eq_true hfruit
  cases hreport : importStatements [plot, tree] with
  | error e => simp [hreport, Except.isOk, Except.toBool] at hok
  | ok report =>
      obtain ⟨report', hreport', htells⟩ :=
        @importStatements_leftOut [plot] [tree] fruit _ report hreport hleft
      exact ⟨plot, fruit, tree, report, report', hgarden, hreport, hleft, hreport', htells⟩

end Ddl

end EntityRelation
