import EntityRelation.Proofs.Ddl.ImportedTables
import EntityRelation.Proofs.Edit.Runs
import EntityRelation.Proofs.Validation.Multiplicity

/-!
# Names that clash

Edits and scripts tell names apart by ASCII case alone, edits after they have trimmed them. The
validator trims every name and takes its full lower case. So it may find one name where the others
see two (`NamesClash`), and it says so exactly where such names stand side by side
(`Schema.clashes_reported_iff`). Trimmed ASCII names never clash (`NamesClash.not_isOrdinary`).
-/

namespace EntityRelation

/-- Two names that are different for edits and scripts, and the same for the validator, which does
not compare blank names. -/
structure NamesClash (a b : String) : Prop where
  apart : Text.sameName a b = false
  together : nameKey a = nameKey b
  not_blank : nameKey a ≠ []

instance (a b : String) : Decidable (NamesClash a b) :=
  decidable_of_iff (Text.sameName a b = false ∧ nameKey a = nameKey b ∧ nameKey a ≠ [])
    ⟨fun h => ⟨h.1, h.2.1, h.2.2⟩, fun h => ⟨h.apart, h.together, h.not_blank⟩⟩

/-- A name of ASCII characters with no blanks at its ends. -/
structure IsOrdinary (name : String) : Prop where
  trimmed : Text.trimmed name = name
  ascii : Text.IsAscii name

theorem IsOrdinary.nameKey_eq {name : String} (h : IsOrdinary name) :
    nameKey name = Text.foldAscii name := by
  by_cases hempty : name.isEmpty = true
  · obtain rfl := String.isEmpty_iff.1 hempty
    rfl
  · exact nameKey_eq_foldAscii ⟨h.trimmed, Bool.eq_false_iff.2 hempty⟩ h.ascii

theorem NamesClash.not_isOrdinary {a b : String} (h : NamesClash a b) (ha : IsOrdinary a) :
    ¬ IsOrdinary b := by
  intro hb
  have hsame := h.together
  rw [ha.nameKey_eq, hb.nameKey_eq] at hsame
  have hapart := h.apart
  rw [Text.sameName, hsame, beq_self_eq_true] at hapart
  cases hapart

/-! ## Keys that repeat -/

/-- In a list of names that ASCII case keeps apart, a key repeats where two names clash. -/
theorem exists_two_le_countP_iff {α : Type} {name : α → String} {as : List α}
    (h : (as.map fun a => Text.foldAscii (name a)).Nodup) :
    (∃ key, key ≠ [] ∧ 2 ≤ as.countP fun a => nameKey (name a) == key) ↔
      ∃ a ∈ as, ∃ b ∈ as, NamesClash (name a) (name b) := by
  constructor
  · rintro ⟨key, hkey, htwo⟩
    rw [List.countP_eq_length_filter] at htwo
    obtain ⟨a, rest, hfound⟩ := List.exists_cons_of_length_pos (Nat.zero_lt_of_lt htwo)
    rw [hfound, List.length_cons, Nat.succ_le_succ_iff] at htwo
    obtain ⟨b, rest, rfl⟩ := List.exists_cons_of_length_pos htwo
    have hpair : [a, b].Sublist (as.filter fun a => nameKey (name a) == key) := by
      rw [hfound]
      exact ((List.nil_sublist rest).cons_cons b).cons_cons a
    have hmem : ∀ c ∈ [a, b], c ∈ as ∧ nameKey (name c) = key := fun c hc => by
      simpa using hpair.subset hc
    obtain ⟨ha, hkeya⟩ := hmem a (by simp)
    obtain ⟨hb, hkeyb⟩ := hmem b (by simp)
    have hdistinct :=
      ((hpair.trans List.filter_sublist).map fun a => Text.foldAscii (name a)).nodup h
    refine ⟨a, ha, b, hb, ?_, hkeya.trans hkeyb.symm, hkeya ▸ hkey⟩
    simpa [Text.sameName] using hdistinct
  · rintro ⟨a, ha, b, hb, hclash⟩
    refine ⟨nameKey (name a), hclash.not_blank, ?_⟩
    have hne : a ≠ b := by
      rintro rfl
      simpa [Text.sameName] using hclash.apart
    have hboth : [a, b].Subperm as := by
      refine List.subperm_of_subset (by simpa using hne) ?_
      rintro c hc
      rcases List.mem_pair.1 hc with rfl | rfl
      · exact ha
      · exact hb
    have htwo := hboth.countP_le fun c => nameKey (name c) == nameKey (name a)
    simpa [List.countP_cons, hclash.together] using htwo

/-! ## What is reported -/

namespace Validator

variable {v : Validator} {s : Schema}

/-- Tables are reported for a name when a key repeats among them. -/
theorem exists_duplicateEntityName_iff (v : Validator) (s : Schema) :
    (∃ name, .duplicateEntityName name ∈ v.errors s) ↔
      ∃ key, key ≠ [] ∧ 2 ≤ s.entities.countP fun e => nameKey e.name == key := by
  have hreports := v.reports_errors s
  constructor
  · rintro ⟨name, hmem⟩
    refine ⟨nameKey name, ?_⟩
    have hpos : 0 < (v.errors s).countP (·.repeatsTable (nameKey name)) :=
      List.countP_pos_iff.2 ⟨_, hmem, beq_self_eq_true _⟩
    rw [hreports.entityNames] at hpos
    split at hpos
    · next h => exact h
    · exact absurd hpos (Nat.lt_irrefl 0)
  · rintro ⟨key, h⟩
    have hpos : 0 < (v.errors s).countP (·.repeatsTable key) := by
      rw [hreports.entityNames, if_pos h]
      exact Nat.one_pos
    obtain ⟨issue, hmem, hissue⟩ := List.countP_pos_iff.1 hpos
    cases issue with
    | duplicateEntityName name => exact ⟨name, hmem⟩
    | _ => cases hissue

/-- Columns of a table are reported for a name when a key repeats among them. -/
theorem exists_duplicateFieldName_iff (v : Validator) (s : Schema) (table : String) :
    (∃ name, .duplicateFieldName table name ∈ v.errors s) ↔
      ∃ e ∈ s.entities, e.label = table ∧
        ∃ key, key ≠ [] ∧ 2 ≤ e.fields.countP fun f => nameKey f.name == key := by
  have hreports := v.reports_errors s
  constructor
  · rintro ⟨name, hmem⟩
    have hpos : 0 < (v.errors s).countP (·.repeatsColumn table (nameKey name)) :=
      List.countP_pos_iff.2 ⟨_, hmem, by simp [Issue.repeatsColumn]⟩
    rw [hreports.fieldNames, totalAt, List.sum_pos_iff_exists_pos_nat] at hpos
    obtain ⟨count, hcount, hpos⟩ := hpos
    obtain ⟨e, he, rfl⟩ := List.mem_map.1 hcount
    obtain ⟨he, hlabel⟩ := List.mem_filter.1 he
    refine ⟨e, he, beq_iff_eq.1 hlabel, nameKey name, ?_⟩
    split at hpos
    · next h => exact h
    · exact absurd hpos (Nat.lt_irrefl 0)
  · rintro ⟨e, he, hlabel, key, h⟩
    have hpos : 0 < (v.errors s).countP (·.repeatsColumn table key) := by
      rw [hreports.fieldNames, totalAt, List.sum_pos_iff_exists_pos_nat]
      refine ⟨1, List.mem_map.2 ⟨e, List.mem_filter.2 ⟨he, beq_iff_eq.2 hlabel⟩, ?_⟩, Nat.one_pos⟩
      rw [if_pos h]
    obtain ⟨issue, hmem, hissue⟩ := List.countP_pos_iff.1 hpos
    cases issue with
    | duplicateFieldName entity name =>
        rw [Issue.repeatsColumn, Bool.and_eq_true, beq_iff_eq] at hissue
        exact ⟨name, hissue.1 ▸ hmem⟩
    | _ => cases hissue

end Validator

/-! ## Schemas from edits and scripts -/

namespace Schema

variable {s : Schema}

/-- The schemas that operations lead to from the empty one and those that scripts are read into. -/
inductive Accepted : Schema → Prop where
  | edited {s : Schema} : s.Edited → Accepted s
  | read {sql : String} {report : Ddl.ImportReport} : Ddl.importScript sql = .ok report →
      Accepted report.schema

/-- ASCII case keeps the names of tables apart, and those of the columns of a table. -/
structure NamesApart (s : Schema) : Prop where
  entities : (s.entities.map fun e => Text.foldAscii e.name).Nodup
  fields : ∀ e ∈ s.entities, (e.fields.map fun f => Text.foldAscii f.name).Nodup

theorem NamesApart.syncForeignKeys (h : s.NamesApart) : s.syncForeignKeys.NamesApart := by
  have hbare : ∀ {t : Schema}, t.bare.NamesApart ↔ t.NamesApart := by
    intro t
    constructor
    · rintro ⟨hentities, hfields⟩
      refine ⟨by simpa [Function.comp_def] using hentities, fun e he => ?_⟩
      simpa [Function.comp_def] using hfields e.bare (List.mem_map_of_mem he)
    · rintro ⟨hentities, hfields⟩
      refine ⟨by simpa [Function.comp_def] using hentities, fun e he => ?_⟩
      obtain ⟨e', he', rfl⟩ := List.mem_map.1 he
      simpa [Function.comp_def] using hfields e' he'
  rw [← hbare, bare_syncForeignKeys, hbare]
  exact h

theorem Accepted.namesApart (h : s.Accepted) : s.NamesApart := by
  cases h with
  | edited h => exact ⟨h.wellFormed.entityNames_distinct, h.wellFormed.fieldNames_distinct⟩
  | read h =>
      rw [Ddl.importScript] at h
      split at h
      · cases h
      · next lexemes _ =>
        obtain ⟨-, hschema⟩ := Ddl.Draft.of_finish h
        have htabled : ((Ddl.Statement.ofLexemes lexemes).foldl Ddl.Draft.add {}).Tabled
            fun _ => True :=
          Ddl.Draft.Tabled.empty.foldl_add fun _ _ _ _ _ _ => trivial
        rw [hschema]
        exact NamesApart.syncForeignKeys ⟨htabled.entityNames, htabled.fieldNames⟩

/-- Edits and scripts accept names that the validator then reports: exactly those that clash, and
none where all names are ordinary. -/
theorem clashes_reported_iff (s : Schema) (h : s.Accepted) (v : Validator) :
    ((∃ name, .duplicateEntityName name ∈ (v.validate s).errors) ↔
        ∃ e ∈ s.entities, ∃ e' ∈ s.entities, NamesClash e.name e'.name) ∧
      (∀ table, (∃ name, .duplicateFieldName table name ∈ (v.validate s).errors) ↔
        ∃ e ∈ s.entities, e.label = table ∧
          ∃ f ∈ e.fields, ∃ f' ∈ e.fields, NamesClash f.name f'.name) ∧
      ((∀ e ∈ s.entities, IsOrdinary e.name ∧ ∀ f ∈ e.fields, IsOrdinary f.name) →
        ∀ issue ∈ (v.validate s).errors, (∀ name, issue ≠ .duplicateEntityName name) ∧
          ∀ table name, issue ≠ .duplicateFieldName table name) := by
  have hapart := h.namesApart
  have htables :=
    (v.exists_duplicateEntityName_iff s).trans (exists_two_le_countP_iff hapart.entities)
  have hcolumns : ∀ table, (∃ name, .duplicateFieldName table name ∈ (v.validate s).errors) ↔
      ∃ e ∈ s.entities, e.label = table ∧
        ∃ f ∈ e.fields, ∃ f' ∈ e.fields, NamesClash f.name f'.name := by
    intro table
    refine (v.exists_duplicateFieldName_iff s table).trans (exists_congr fun e => ?_)
    exact and_congr_right fun he => and_congr_right fun _ =>
      exists_two_le_countP_iff (hapart.fields e he)
  refine ⟨htables, hcolumns, fun hordinary issue hissue => ⟨?_, ?_⟩⟩
  · rintro name rfl
    obtain ⟨e, he, e', he', hclash⟩ := htables.1 ⟨name, hissue⟩
    exact hclash.not_isOrdinary (hordinary e he).1 (hordinary e' he').1
  · rintro table name rfl
    obtain ⟨e, he, -, f, hf, f', hf', hclash⟩ := (hcolumns table).1 ⟨name, hissue⟩
    exact hclash.not_isOrdinary ((hordinary e he).2 f hf) ((hordinary e he).2 f' hf')

/-- The schema of two operations that add a table each, the second under the name of the first in
capitals. -/
def capitals : Schema :=
  Operation.runFrom {} {} [.addEntityNamed "é", .addEntityNamed "É"]

/-- Both operations are accepted, and the names are reported. -/
theorem clashes_reported_iff_capitals : capitals.entities.map (·.name) = ["é", "É"] ∧
    ∃ name, .duplicateEntityName name ∈ (Validator.validate {} capitals).errors := by
  have hnames : capitals.entities.map (·.name) = ["é", "É"] := by decide +kernel
  have hedited : capitals.Accepted := .edited (Operation.edited_run _)
  refine ⟨hnames, (clashes_reported_iff capitals hedited {}).1.2 ?_⟩
  decide +kernel

/-- A script with two columns that only the validator takes for one. -/
theorem not_forall_accepted_unreported : ¬ ∀ s : Schema, s.Accepted → ∀ v : Validator,
    ∀ issue ∈ (v.validate s).errors, (∀ name, issue ≠ .duplicateEntityName name) ∧
      ∀ table name, issue ≠ .duplicateFieldName table name := by
  intro h
  have hread : (Ddl.importScript "CREATE TABLE t (é INT, É INT);").toOption.any (fun report =>
      decide (.duplicateFieldName "t" "É" ∈ (Validator.validate {} report.schema).errors)) =
        true := by
    decide +kernel
  cases hreport : Ddl.importScript "CREATE TABLE t (é INT, É INT);" with
  | error e =>
      rw [hreport] at hread
      cases hread
  | ok report =>
      rw [hreport] at hread
      exact (h report.schema (.read hreport) {} _ (of_decide_eq_true hread)).2 _ _ rfl

end Schema

end EntityRelation
