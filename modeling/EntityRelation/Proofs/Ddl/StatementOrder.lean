import EntityRelation.Proofs.Ddl.ImportedTables
import EntityRelation.Proofs.Ddl.TablesByName

/-!
# Tables may come in any order

Without alterations the order of the statements is the order of what they come to
(`Reading.permuted_foldl_add`). Names tell the tables apart, so a foreign key finds the same table
wherever it stands in the script. So two orders of the same statements give the same tables with
the same columns, the same links, and the same skipped statements and warnings
(`importStatements_perm`).
-/

namespace EntityRelation

/-- Where keys are distinct, the first element with a key does not depend on the order. -/
theorem find?_key_perm {α κ : Type} [BEq κ] [LawfulBEq κ] {key : α → κ} {as bs : List α}
    (h : (as.map key).Nodup) (hperm : as.Perm bs) (k : κ) :
    as.find? (fun a => key a == k) = bs.find? fun a => key a == k := by
  cases hbs : bs.find? fun a => key a == k with
  | none =>
      rw [List.find?_eq_none] at hbs ⊢
      exact fun a ha => hbs a (hperm.subset ha)
  | some b =>
      have hkey : key b = k := by simpa using List.find?_some hbs
      rw [← hkey]
      exact find?_key_eq_some h (hperm.symm.subset (List.mem_of_find?_eq_some hbs))

namespace Ddl

/-! ## The readings of two orders -/

namespace Reading

/-- The reading of a script that alters no table and gives no name twice. -/
theorem apart_foldl_add {statements : List Statement}
    (hs : ∀ s ∈ statements, s.altersTable = false) (h : Fresh {} statements) :
    (statements.foldl add {}).Apart := by
  have hdraft := foldl_add_draft hs h
  have hempty : draft {} = {} := rfl
  have hnumbered := Draft.Numbered.empty.foldl_add statements
  have htabled : (statements.foldl Draft.add {}).Tabled fun _ => True :=
    Draft.Tabled.empty.foldl_add fun _ _ _ _ _ _ => trivial
  rw [hempty] at hdraft
  rw [hdraft] at hnumbered htabled
  have hnames := htabled.entityNames
  rw [draft, List.map_map] at hnames
  refine ⟨⟨hnumbered.entityIds, fun e he => hnumbered.fieldIds he⟩, hnames, fun t ht => ?_,
    child_eq_of_mem_foldl_add (fun _ h => absurd h List.not_mem_nil) statements⟩
  exact htabled.fieldNames _ (mem_entities ht)

/-- Two readings that differ in ids, positions and order. -/
structure Permuted (r r' : Reading) : Prop where
  tables : (r.tables.map TableDraft.anonymous).Perm (r'.tables.map TableDraft.anonymous)
  skipped : r.skipped.Perm r'.skipped
  warnings : r.warnings.Perm r'.warnings

theorem permuted_foldl_add {ss ts : List Statement} (h : ss.Perm ts) :
    (ss.foldl add {}).Permuted (ts.foldl add {}) := by
  have hss := alike_foldl_add ss {}
  have hts := alike_foldl_add ts {}
  constructor
  · rw [hss.tables, hts.tables]
    exact (h.flatMap_right _).map _
  · rw [hss.skipped, hts.skipped]
    exact h.flatMap_right _
  · rw [hss.warnings, hts.warnings]
    exact h.flatMap_right _

variable {r r' : Reading}

theorem entities_anonymous (r : Reading) : r.draft.schema.anonymous.entities =
    (r.tables.map TableDraft.anonymous).map TableDraft.entity := by
  rw [Schema.anonymous, Draft.schema, draft, List.map_map, List.map_map]
  rfl

/-- A name stands for the same table in both orders. -/
theorem Permuted.entityNamed?_eq (h : r.Permuted r') (hr : r.Apart) (name : String) :
    r.draft.schema.anonymous.entityNamed? name = r'.draft.schema.anonymous.entityNamed? name := by
  rw [Schema.entityNamed?, Schema.entityNamed?, entities_anonymous, entities_anonymous]
  have hnames : (((r.tables.map TableDraft.anonymous).map TableDraft.entity).map
      fun e : Entity => Text.foldAscii e.name).Nodup := by
    rw [List.map_map, List.map_map]
    exact hr.names
  exact find?_key_perm hnames (h.tables.map _) _

theorem Permuted.isEmpty_tables (h : r.Permuted r') : r.tables.isEmpty = r'.tables.isEmpty := by
  have hlength := h.tables.length_eq
  rw [List.length_map, List.length_map] at hlength
  rw [Bool.eq_iff_iff, List.isEmpty_iff_length_eq_zero, List.isEmpty_iff_length_eq_zero, hlength]

/-- What tables give by name, they give in both orders. -/
theorem Permuted.flatMap {β : Type} (h : r.Permuted r') (hr : r.Apart)
    {g : Schema → TableDraft → List β} (hanonymous : ∀ s t, g s.anonymous t.anonymous = g s t)
    (hnamed : ∀ s s' t, (∀ name, s.entityNamed? name = s'.entityNamed? name) → g s t = g s' t) :
    (r.tables.flatMap (g r.draft.schema)).Perm (r'.tables.flatMap (g r'.draft.schema)) := by
  have hall : ∀ r : Reading, r.tables.flatMap (g r.draft.schema) =
      (r.tables.map TableDraft.anonymous).flatMap (g r.draft.schema.anonymous) := by
    intro r
    rw [List.flatMap_map]
    exact congrArg r.tables.flatMap (funext fun t => (hanonymous _ t).symm)
  have hsame : g r.draft.schema.anonymous = g r'.draft.schema.anonymous :=
    funext fun t => hnamed _ _ t (h.entityNamed?_eq hr)
  rw [hall r, hall r', hsame]
  exact h.tables.flatMap_right _

/-- The report that an import ends with, if any table was read. -/
def report (r : Reading) : ImportReport where
  schema := r.linked.syncForeignKeys
  skipped := r.skipped
  warnings := r.warnings ++ r.draft.resolution.warnings

theorem finish_draft (h : r.tables ≠ []) : r.draft.finish = .ok r.report :=
  Draft.finish_eq (mt List.map_eq_nil_iff.1 h)

theorem isOk_finish_draft (r : Reading) : r.draft.finish.isOk = !r.tables.isEmpty := by
  cases htables : r.tables with
  | nil =>
      rw [Draft.finish, draft, htables]
      dsimp only
      cases r.skipped with
      | nil => rfl
      | cons first rest => rfl
  | cons t rest =>
      rw [finish_draft (by simp [htables])]
      rfl

theorem report_eq {r : Reading} {report : ImportReport} (h : r.draft.finish = .ok report) :
    r.report = report := by
  have hok := r.isOk_finish_draft
  rw [h] at hok
  have hsome : r.tables ≠ [] := by
    rintro hnil
    rw [hnil] at hok
    cases hok
  exact Except.ok.inj ((finish_draft hsome).symm.trans h)

end Reading

/-- Two reports that tell the same: the same tables by name with the same columns, the same links by
name, and the same skipped statements and warnings. -/
structure ImportReport.SameByName (report report' : ImportReport) : Prop where
  tables : (report.schema.entities.map Entity.content).Perm
    (report'.schema.entities.map Entity.content)
  links : ∀ names, names ∈ report.schema.links ↔ names ∈ report'.schema.links
  skipped : report.skipped.Perm report'.skipped
  warnings : report.warnings.Perm report'.warnings

theorem Reading.Permuted.sameByName {r r' : Reading} (h : r.Permuted r') (hr : r.Apart)
    (hr' : r'.Apart) : r.report.SameByName r'.report := by
  constructor
  · have hcontents := h.flatMap hr (g := fun s t => [t.contentIn s])
      (fun s t => congrArg (fun c => [c]) (t.contentIn_anonymous s))
      fun s s' t hnamed => congrArg (fun c => [c]) (TableDraft.contentIn_congr hnamed t)
    rw [← List.map_eq_flatMap, ← List.map_eq_flatMap] at hcontents
    rw [report, report, hr.contents_linked, hr'.contents_linked]
    exact hcontents
  · intro names
    have hnames := h.flatMap hr (g := fun s t => (t.links s).map Link.names)
      (fun s t => t.names_anonymous s)
      fun s s' t hnamed => congrArg (List.map Link.names) (TableDraft.links_congr hnamed t)
    rw [report, report, hr.mem_links_iff, hr'.mem_links_iff, links, links, List.map_flatMap,
      List.map_flatMap]
    exact hnames.mem_iff
  · exact h.skipped
  · have hcomplaints := h.flatMap hr (g := TableDraft.complaints)
      (fun s t => t.complaints_anonymous s) fun s s' t hnamed => TableDraft.complaints_congr hnamed t
    rw [report, report, hr.reads.warnings, hr'.reads.warnings]
    exact h.warnings.append hcomplaints

/-! ## The import of two orders -/

/-- Tables may come in any order. Where no table is altered and no two tables are created with the
same name up to ASCII case, statements are imported in one order just when they are in any other,
and the two reports tell the same. -/
theorem importStatements_perm {ss ts : List Statement} (hperm : ss.Perm ts)
    (halter : ∀ s ∈ ss, s.altersTable = false)
    (hnames : ((ss.filterMap Statement.createdName?).map Text.foldAscii).Nodup) :
    (importStatements ss).isOk = (importStatements ts).isOk ∧
      ∀ report report', importStatements ss = .ok report → importStatements ts = .ok report' →
        report.SameByName report' := by
  have hfresh : Reading.Fresh {} ss := hnames
  have hfresh' : Reading.Fresh {} ts :=
    ((hperm.filterMap Statement.createdName?).map Text.foldAscii).nodup hnames
  have halter' : ∀ s ∈ ts, s.altersTable = false := fun s hs => halter s (hperm.mem_iff.2 hs)
  have himport : importStatements ss = (ss.foldl Reading.add {}).draft.finish :=
    congrArg Draft.finish (Reading.foldl_add_draft halter hfresh)
  have himport' : importStatements ts = (ts.foldl Reading.add {}).draft.finish :=
    congrArg Draft.finish (Reading.foldl_add_draft halter' hfresh')
  have hpermuted := Reading.permuted_foldl_add hperm
  rw [himport, himport', Reading.isOk_finish_draft, Reading.isOk_finish_draft]
  refine ⟨congrArg (!·) hpermuted.isEmpty_tables, fun report report' hreport hreport' => ?_⟩
  rw [← Reading.report_eq hreport, ← Reading.report_eq hreport']
  exact hpermuted.sameByName (Reading.apart_foldl_add halter hfresh)
    (Reading.apart_foldl_add halter' hfresh')

/-- A table with an implied key of a table that comes later, one that cannot be read, a key of an
unknown table, and a statement that is passed over. -/
def orchardStatements : List Statement :=
  ["CREATE TABLE tree (id INT, plot INT REFERENCES plot, owner INT REFERENCES owner)",
    "CREATE TABLE fruit", "DROP TABLE fruit", "CREATE TABLE Plot (nr INT PRIMARY KEY)"].flatMap
      fun sql =>
        match Lexer.lexemes sql with
        | .error _ => []
        | .ok lexemes => Statement.ofLexemes lexemes

theorem importStatements_perm_orchard :
    (importStatements orchardStatements).isOk = true ∧
      (importStatements orchardStatements).isOk =
        (importStatements orchardStatements.reverse).isOk ∧
      ∀ report report', importStatements orchardStatements = .ok report →
        importStatements orchardStatements.reverse = .ok report' → report.SameByName report' := by
  have hok : (importStatements orchardStatements).isOk = true := by
    decide +kernel
  have halter : (orchardStatements.all fun s => !s.altersTable) = true := by
    decide +kernel
  have hnames : ((orchardStatements.filterMap Statement.createdName?).map
      Text.foldAscii).Nodup := by
    decide +kernel
  refine ⟨hok, importStatements_perm (List.reverse_perm _).symm (fun s hs => ?_) hnames⟩
  simpa using List.all_eq_true.1 halter s hs

end Ddl

end EntityRelation
