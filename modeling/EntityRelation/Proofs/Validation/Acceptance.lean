import EntityRelation.Proofs.Text.Trim
import EntityRelation.Proofs.Validation.Multiplicity

/-!
# What the validator accepts

A schema has no errors exactly when it keeps the structural rules (`Validator.Accepts`). Both
directions are read off the counts: a rule that is kept leaves nothing to count, and where nothing
is counted every rule is kept (`Validator.Reports.eq_nil_iff`).
-/

namespace EntityRelation

/-! ## Blank names -/

namespace Text

theorem trim_eq_nil_iff (cs : List Char) : trim cs = [] ↔ ∀ c ∈ cs, isBlank c = true := by
  have hstart : (∀ c ∈ trimStart cs, isBlank c = true) ↔ ∀ c ∈ cs, isBlank c = true := by
    constructor
    · intro h c hc
      rw [← List.takeWhile_append_dropWhile (p := isBlank) (l := cs), List.mem_append] at hc
      rcases hc with hc | hc
      · exact List.mem_takeWhile_imp hc
      · exact h c hc
    · exact fun h c hc => h c ((List.dropWhile_sublist isBlank).subset hc)
  rw [trim, trimEnd_eq_rdropWhile, List.rdropWhile_eq_nil_iff, hstart]

theorem lowerChar_ne_nil (c : Char) : lowerChar c ≠ [] := by
  rw [lowerChar]
  split
  · exact List.cons_ne_nil _ _
  · rw [mapCase, lowerExpansions, List.lookup_cons]
    cases c.toNat == 0x130 with
    | true => simp
    | false =>
        simp only [List.lookup_nil]
        split <;> exact List.cons_ne_nil _ _

theorem toLower_eq_nil_iff (cs : List Char) : toLower cs = [] ↔ cs = [] := by
  cases cs with
  | nil => exact iff_of_true rfl rfl
  | cons c rest =>
      refine iff_of_false (fun h => ?_) (List.cons_ne_nil _ _)
      rw [toLower, lowerAfter] at h
      have hfirst := (List.append_eq_nil_iff.1 h).1
      split at hfirst
      · split at hfirst <;> cases hfirst
      · exact lowerChar_ne_nil c hfirst

end Text

/-- A name without a key is blank. -/
theorem nameKey_eq_nil_iff (name : String) :
    nameKey name = [] ↔ Text.isBlankText name = true := by
  rw [nameKey, Text.toLower_eq_nil_iff, Text.trim_eq_nil_iff, Text.isBlankText, List.all_eq_true]

/-- A name that is blank breaks a rule at every level. -/
theorem nameKey_ne_nil_of_checkName {name : String} {level : Strictness} {maxLength : Option Nat}
    (h : (checkName name level maxLength).errors = []) : nameKey name ≠ [] := by
  rw [nameKey, Ne, Text.toLower_eq_nil_iff]
  intro hblank
  have hempty : (Text.trimmed name).isEmpty = true := by
    rw [Text.trimmed, hblank]
    rfl
  rw [checkName] at h
  simp [hempty] at h

/-! ## The structural rules -/

theorem nodup_map_iff_countP {α κ : Type} [BEq κ] [LawfulBEq κ] {key : α → κ} {as : List α} :
    (as.map key).Nodup ↔ ∀ k, as.countP (fun a => key a == k) ≤ 1 := by
  rw [List.nodup_iff_count_le_one]
  simp only [List.count, List.countP_map, Function.comp_def]

/-- Keys are distinct when there is no repetition to count. -/
theorem nodup_map_iff_repetitions {α κ : Type} [BEq κ] [LawfulBEq κ] {key : α → κ} {as : List α} :
    (as.map key).Nodup ↔ ∀ k, as.countP (fun a => key a == k) - 1 = 0 := by
  rw [nodup_map_iff_countP]
  exact forall_congr' fun k => Nat.sub_eq_zero_iff_le.symm

/-- Names that are not blank are distinct when none is reported as repeated. -/
theorem nodup_nameKey_iff {α : Type} {name : α → String} {as : List α}
    (h : ∀ a ∈ as, nameKey (name a) ≠ []) :
    (as.map fun a => nameKey (name a)).Nodup ↔ ∀ key,
      (if key ≠ [] ∧ 2 ≤ as.countP (fun a => nameKey (name a) == key) then 1 else 0) = 0 := by
  rw [nodup_map_iff_countP]
  refine forall_congr' fun key => ?_
  by_cases hkey : key = []
  · have hnone : as.countP (fun a => nameKey (name a) == key) = 0 :=
      List.countP_eq_zero.2 fun a ha hsame => h a ha ((beq_iff_eq.1 hsame).trans hkey)
    simp [hnone]
  · simp only [hkey, ne_eq, not_false_eq_true, true_and]
    split <;> omega

namespace Validator

variable {v : Validator} {s : Schema} {errors : List Issue}

/-- The structural rules for a schema. -/
structure Accepts (v : Validator) (s : Schema) : Prop where
  entityIds : (s.entities.map (·.id)).Nodup
  nameRules : ∀ e ∈ s.entities, (checkName e.name v.level v.maxLength).errors = []
  entityNames : (s.entities.map fun e => nameKey e.name).Nodup
  fieldIds : ∀ e ∈ s.entities, (e.fields.map (·.id)).Nodup
  fieldsNamed : ∀ e ∈ s.entities, ∀ f ∈ e.fields, Text.isBlankText f.name = false
  fieldNames : ∀ e ∈ s.entities, (e.fields.map fun f => nameKey f.name).Nodup
  primaryKeys : ∀ e ∈ s.entities, ∃ f ∈ e.fields, f.isPrimaryKey = true
  relationshipIds : (s.relationships.map (·.id)).Nodup
  ends : ∀ r ∈ s.relationships, ∀ side : RelationshipEnd, ∃ e f,
    s.entity? (side.of r).entity = some e ∧ e.field? (side.of r).field = some f
  references : ∀ e ∈ s.entities, ∀ f ∈ e.fields, f.isForeignKey = true → ∃ target parent column,
    f.references = some target ∧ s.entityNamed? target.table = some parent ∧
      parent.fieldNamed? target.field = some column

theorem totalAt_eq_zero_iff {table : String} {count : Entity → Nat} :
    totalAt s table count = 0 ↔ ∀ e ∈ s.entities, e.label = table → count e = 0 := by
  rw [totalAt, List.sum_eq_zero_iff_forall_eq_nat]
  simp only [List.mem_map, List.mem_filter, beq_iff_eq]
  constructor
  · exact fun h e he hlabel => h _ ⟨e, ⟨he, hlabel⟩, rfl⟩
  · rintro h _ ⟨e, ⟨he, hlabel⟩, rfl⟩
    exact h e he hlabel

theorem hasColumn_iff {target : ColumnName} : hasColumn s target = true ↔
    ∃ parent column, s.entityNamed? target.table = some parent ∧
      parent.fieldNamed? target.field = some column := by
  rw [hasColumn, Option.any_eq_true]
  simp only [Option.isSome_iff_exists]
  simp

/-- Where nothing is reported, every rule is kept. -/
theorem Reports.accepts (h : v.Reports s []) : v.Accepts s := by
  have hnames : ∀ e ∈ s.entities, (checkName e.name v.level v.maxLength).errors = [] := by
    intro e he
    refine List.eq_nil_iff_forall_not_mem.2 fun fault hfault => ?_
    have hcount := totalAt_eq_zero_iff.1 (h.nameFaults e.label fault).symm e he rfl
    exact List.count_eq_zero.1 hcount hfault
  have hfields : ∀ e ∈ s.entities, ∀ f ∈ e.fields, nameKey f.name ≠ [] := by
    intro e he f hf hblank
    have hcount := totalAt_eq_zero_iff.1 (h.blankNames e.label f.id).symm e he rfl
    exact List.countP_eq_zero.1 hcount f hf (by simp [hblank])
  constructor
  case entityIds => exact nodup_map_iff_repetitions.2 fun id => (h.entityIds id).symm
  case nameRules => exact hnames
  case entityNames =>
    have hnamed : ∀ e ∈ s.entities, nameKey e.name ≠ [] := fun e he =>
      nameKey_ne_nil_of_checkName (hnames e he)
    exact (nodup_nameKey_iff hnamed).2 fun key => (h.entityNames key).symm
  case fieldIds =>
    intro e he
    exact nodup_map_iff_repetitions.2 fun id =>
      totalAt_eq_zero_iff.1 (h.fieldIds e.label id).symm e he rfl
  case fieldsNamed =>
    intro e he f hf
    rw [← Bool.not_eq_true, ← nameKey_eq_nil_iff]
    exact hfields e he f hf
  case fieldNames =>
    intro e he
    exact (nodup_nameKey_iff (hfields e he)).2 fun key =>
      totalAt_eq_zero_iff.1 (h.fieldNames e.label key).symm e he rfl
  case primaryKeys =>
    intro e he
    have hkey := List.countP_eq_zero.1 (h.primaryKeys e.label).symm e he
    simpa [Entity.primaryKeys] using hkey
  case relationshipIds => exact nodup_map_iff_repetitions.2 fun id => (h.relationshipIds id).symm
  case ends =>
    intro r hr side
    have hend := List.countP_eq_zero.1 (h.ends r.id side).symm r hr
    simp only [beq_self_eq_true, Bool.true_and, Option.isNone_iff_eq_none] at hend
    obtain ⟨⟨e, f⟩, hsome⟩ := Option.ne_none_iff_exists'.1 hend
    exact ⟨e, f, (Schema.endpoint?_eq_some_iff _).1 hsome⟩
  case references =>
    intro e he f hf hkey
    cases hreferences : f.references with
    | none =>
        have hcount := totalAt_eq_zero_iff.1 (h.withoutReference e.label f.label).symm e he rfl
        exact absurd (by simp [hkey, hreferences]) (List.countP_eq_zero.1 hcount f hf)
    | some target =>
        have hcount := totalAt_eq_zero_iff.1 (h.unresolved e.label f.label target).symm e he rfl
        have hcolumn := List.countP_eq_zero.1 hcount f hf
        simp only [beq_self_eq_true, hkey, hreferences, Bool.true_and, Bool.not_eq_true',
          Bool.not_eq_false] at hcolumn
        obtain ⟨parent, column, hparent, hfield⟩ := hasColumn_iff.1 hcolumn
        exact ⟨target, parent, column, rfl, hparent, hfield⟩

theorem Accepts.entities_named (hs : v.Accepts s) : ∀ e ∈ s.entities, nameKey e.name ≠ [] :=
  fun e he => nameKey_ne_nil_of_checkName (hs.nameRules e he)

theorem Accepts.fields_named (hs : v.Accepts s) {e : Entity} (he : e ∈ s.entities) :
    ∀ f ∈ e.fields, nameKey f.name ≠ [] := by
  intro f hf hblank
  rw [nameKey_eq_nil_iff, hs.fieldsNamed e he f hf] at hblank
  cases hblank

/-- The relationships of an accepted schema have both ends in place. -/
theorem Accepts.resolves (hs : v.Accepts s) : ∀ r ∈ s.relationships, (s.resolve? r).isSome := by
  intro r hr
  have hend : ∀ side : RelationshipEnd, (s.endpoint? (side.of r)).isSome := by
    intro side
    obtain ⟨e, f, he, hf⟩ := hs.ends r hr side
    exact Option.isSome_of_eq_some ((Schema.endpoint?_eq_some_iff _).2 ⟨he, hf⟩)
  exact (Schema.resolve?_isSome_iff r).2 ⟨hend .parent, hend .child⟩

/-- Where every rule is kept, nothing can be reported. -/
theorem Accepts.not_mem (hs : v.Accepts s) (h : v.Reports s errors) (issue : Issue) :
    issue ∉ errors := by
  have hcount : errors.count issue = 0 → issue ∉ errors := List.count_eq_zero.1
  cases issue with
  | duplicateEntityId id =>
      exact hcount ((h.entityIds id).trans (nodup_map_iff_repetitions.1 hs.entityIds id))
  | invalidEntityName table fault =>
      refine hcount ((h.nameFaults table fault).trans (totalAt_eq_zero_iff.2 fun e he _ => ?_))
      rw [hs.nameRules e he, List.count_nil]
  | duplicateEntityName name =>
      have hnone := (h.entityNames (nameKey name)).trans
        ((nodup_nameKey_iff hs.entities_named).1 hs.entityNames (nameKey name))
      exact fun hmem => List.countP_eq_zero.1 hnone _ hmem (by simp [Issue.repeatsTable])
  | duplicateFieldId table id =>
      refine hcount ((h.fieldIds table id).trans (totalAt_eq_zero_iff.2 fun e he _ => ?_))
      exact nodup_map_iff_repetitions.1 (hs.fieldIds e he) id
  | emptyFieldName table field =>
      refine hcount ((h.blankNames table field).trans (totalAt_eq_zero_iff.2 fun e he _ => ?_))
      refine List.countP_eq_zero.2 fun f hf hblank => ?_
      rw [Bool.and_eq_true, List.isEmpty_iff] at hblank
      exact hs.fields_named he f hf hblank.2
  | duplicateFieldName table name =>
      have hnone := (h.fieldNames table (nameKey name)).trans
        (totalAt_eq_zero_iff.2 fun e he _ =>
          (nodup_nameKey_iff (hs.fields_named he)).1 (hs.fieldNames e he) (nameKey name))
      exact fun hmem => List.countP_eq_zero.1 hnone _ hmem (by simp [Issue.repeatsColumn])
  | missingPrimaryKey table =>
      refine hcount ((h.primaryKeys table).trans (List.countP_eq_zero.2 fun e he hnone => ?_))
      obtain ⟨f, hf, hkey⟩ := hs.primaryKeys e he
      rw [Bool.and_eq_true, List.isEmpty_iff, Entity.primaryKeys, List.filter_eq_nil_iff] at hnone
      exact hnone.2 f hf hkey
  | duplicateRelationshipId id =>
      exact hcount ((h.relationshipIds id).trans
        (nodup_map_iff_repetitions.1 hs.relationshipIds id))
  | missingEntity relationship side entity =>
      refine hcount ((h.missingEntities relationship side entity).trans
        (List.countP_eq_zero.2 fun r hr hnone => ?_))
      obtain ⟨e, f, he, -⟩ := hs.ends r hr side
      simp only [Bool.and_eq_true, beq_iff_eq] at hnone
      obtain ⟨⟨-, rfl⟩, hnone⟩ := hnone
      rw [he] at hnone
      cases hnone
  | missingField relationship side table field =>
      refine hcount ((h.missingFields relationship side table field).trans
        (List.countP_eq_zero.2 fun r hr hnone => ?_))
      obtain ⟨e, f, he, hf⟩ := hs.ends r hr side
      simp only [Bool.and_eq_true, beq_iff_eq, he, Option.any_some] at hnone
      obtain ⟨⟨-, rfl⟩, -, hnone⟩ := hnone
      rw [hf] at hnone
      cases hnone
  | foreignKeyWithoutReference table field =>
      refine hcount ((h.withoutReference table field).trans
        (totalAt_eq_zero_iff.2 fun e he _ => List.countP_eq_zero.2 fun f hf hnone => ?_))
      simp only [Bool.and_eq_true] at hnone
      obtain ⟨target, parent, column, hreferences, -⟩ := hs.references e he f hf hnone.1.2
      simp [hreferences] at hnone
  | unresolvedReference table field target =>
      refine hcount ((h.unresolved table field target).trans
        (totalAt_eq_zero_iff.2 fun e he _ => List.countP_eq_zero.2 fun f hf hnone => ?_))
      simp only [Bool.and_eq_true, beq_iff_eq] at hnone
      obtain ⟨⟨⟨-, hkey⟩, htarget⟩, hnone⟩ := hnone
      obtain ⟨other, parent, column, hreferences, hparent, hfield⟩ := hs.references e he f hf hkey
      obtain rfl := Option.some.inj (hreferences.symm.trans htarget)
      rw [hasColumn_iff.2 ⟨parent, column, hparent, hfield⟩] at hnone
      cases hnone
  | foreignKeyMismatch entity field claimed derived =>
      exact fun hmem => absurd (h.others _ hmem) (by simp [Issue.pass?])
  | nameWarning name fault =>
      exact fun hmem => absurd (h.others _ hmem) (by simp [Issue.pass?])

/-- A schema has no errors exactly when it keeps the rules. -/
theorem Reports.eq_nil_iff (h : v.Reports s errors) : errors = [] ↔ v.Accepts s := by
  constructor
  · rintro rfl
    exact h.accepts
  · exact fun hs => List.eq_nil_iff_forall_not_mem.2 (hs.not_mem h)

/-- The validator accepts the schemas that keep the structural rules, and reports every other one
with each defect as often as it has it. -/
theorem validate_exact (v : Validator) (s : Schema) :
    ((v.validate s).errors = [] ↔ v.Accepts s) ∧ v.Reports s (v.validate s).errors :=
  ⟨(v.reports_errors s).eq_nil_iff, v.reports_errors s⟩

end Validator

end EntityRelation
