import EntityRelation.Proofs.Ddl.Names
import EntityRelation.Proofs.Script.Contents
import EntityRelation.Proofs.Validation.WellFormed

/-!
# The names of indexes

The name of an index is put together from the names of a table and of a column, and nothing in it
says where the one ends and the other begins. Two pairs of names lead to one name in two ways only
(`IndexDefinition.nameFor_eq_iff`): they are the same up to what folding forgets, or the longer name
of a table goes on with an underscore and with a piece that the other pair has in the name of its
column (`SameName`).

A script gives each of its indexes a name of its own exactly when no two of the indexed columns are
related in this way. Plain names of tables none of which goes on where another ends are enough.
-/

namespace EntityRelation

namespace IndexDefinition

/-- A character in the name of an index. -/
def foldChar (c : Char) : Char :=
  if isPlainChar c then c.toLower else '_'

/-- A name as it stands in the name of an index. -/
def folded (name : String) : List Char :=
  name.toList.map foldChar

theorem toList_nameFor (table column : String) :
    (nameFor table column).toList = "idx_".toList ++ (folded table ++ '_' :: folded column) := by
  have hfolded : ∀ name : String, folded name =
      name.toList.map fun c => if c.isAlphanum || c = '_' then c.toLower else '_' := fun _ => rfl
  rw [nameFor, String.toList_ofList, hfolded, hfolded]
  simp only [String.toList_append, List.map_append, List.append_assoc]
  rfl

/-- Two columns, each in its table, whose indexes have one name. -/
inductive SameName (table column table' column' : String) : Prop
  /-- The tables and the columns differ in what folding forgets. -/
  | alike (htable : folded table = folded table') (hcolumn : folded column = folded column')
  /-- A piece at the end of the second table is at the start of the first column. -/
  | longer (piece : List Char) (htable : folded table' = folded table ++ '_' :: piece)
      (hcolumn : folded column = piece ++ '_' :: folded column')
  /-- A piece at the end of the first table is at the start of the second column. -/
  | shorter (piece : List Char) (htable : folded table = folded table' ++ '_' :: piece)
      (hcolumn : folded column' = piece ++ '_' :: folded column)

variable {table column table' column' : String}

/-- The names of two indexes are the same just when their columns say so. -/
theorem nameFor_eq_iff :
    nameFor table column = nameFor table' column' ↔ SameName table column table' column' := by
  have hjoined : nameFor table column = nameFor table' column' ↔
      folded table ++ '_' :: folded column = folded table' ++ '_' :: folded column' := by
    rw [← String.toList_inj, toList_nameFor, toList_nameFor, List.append_right_inj]
  rw [hjoined, List.append_eq_append_iff]
  constructor
  · rintro (⟨rest, htable, hcolumn⟩ | ⟨rest, htable, hcolumn⟩)
    · cases rest with
      | nil => exact .alike (by simpa using htable.symm) (by simpa using hcolumn)
      | cons c piece =>
          rw [List.cons_append] at hcolumn
          obtain ⟨rfl, hpiece⟩ := List.cons.inj hcolumn
          exact .longer piece htable hpiece
    · cases rest with
      | nil => exact .alike (by simpa using htable) (by simpa using hcolumn.symm)
      | cons c piece =>
          rw [List.cons_append] at hcolumn
          obtain ⟨rfl, hpiece⟩ := List.cons.inj hcolumn
          exact .shorter piece htable hpiece
  · rintro (⟨htable, hcolumn⟩ | ⟨piece, htable, hcolumn⟩ | ⟨piece, htable, hcolumn⟩)
    · exact Or.inl ⟨[], by simp [htable], by simp [hcolumn]⟩
    · exact Or.inl ⟨'_' :: piece, htable, by simp [hcolumn]⟩
    · exact Or.inr ⟨'_' :: piece, htable, by simp [hcolumn]⟩

/-- A name of ASCII letters, digits and underscores. -/
def IsPlain (name : String) : Prop :=
  ∀ c ∈ name.toList, isPlainChar c = true

instance (name : String) : Decidable (IsPlain name) :=
  List.decidableBAll _ name.toList

/-- Of a plain name folding forgets the case of its letters, which is what the validator forgets. -/
theorem IsPlain.folded_eq_nameKey {name : String} (h : IsPlain name) :
    folded name = nameKey name := by
  have htrim : Text.trim name.toList = name.toList := by
    have hblank : ∀ c ∈ name.toList, Text.isBlank c = false := fun c hc =>
      Ddl.Lexer.not_isBlank Ddl.Lexer.isWordPart_stop (Ddl.Lexer.isWordPart_of_plain (h c hc))
    exact (Text.trim_eq_self_iff _).2 ⟨fun c hc => hblank c (List.mem_of_mem_head? hc),
      fun c hc => hblank c (List.mem_of_mem_getLast? hc)⟩
  have hascii : Text.IsAscii name := fun c hc => Ddl.toNat_lt_of_plain (h c hc)
  rw [nameKey, htrim, Text.toLower, Text.lowerAfter_ascii _ hascii]
  exact List.map_congr_left fun c hc => if_pos (h c hc)

end IndexDefinition

namespace Script

/-- The name that a statement gives to an index. -/
def Statement.indexName? : Statement → Option String
  | createIndex i => some i.name
  | _ => none

/-- The names that a script gives to its indexes, in their order. -/
def indexNames (script : Script) : List String :=
  script.statements.filterMap Statement.indexName?

theorem indexNames_eq (script : Script) :
    script.indexNames = script.indexes.flatten.map (·.name) := by
  rw [indexNames, statements, List.filterMap_append, List.filterMap_append, List.filterMap_map,
    List.filterMap_map, List.filterMap_map]
  simp [Function.comp_def, Statement.indexName?]

end Script

namespace Schema

open IndexDefinition

/-- Whether a column of a table has an index in the scripts of a schema. -/
def HasIndex (s : Schema) (table column : String) : Prop :=
  ∃ e ∈ s.entities, e.name = table ∧
    ∃ f ∈ e.fields, isIndexed s e f = true ∧ f.name = column

/-- No two columns with an index lead to one name. -/
def SeparatesIndexes (s : Schema) : Prop :=
  ∀ table column table' column', s.HasIndex table column → s.HasIndex table' column' →
    SameName table column table' column' → table = table' ∧ column = column'

variable {v : Validator} {s : Schema} {options : ScriptOptions}

/-- An index is named after its table and its column, and is there for each column that has one. -/
theorem mem_indexes_ofSchema_iff {i : IndexDefinition} :
    i ∈ (Script.ofSchema s options).indexes.flatten ↔
      i.name = nameFor i.table i.column ∧ s.HasIndex i.table i.column := by
  rw [Script.flatten_indexes_ofSchema, List.mem_flatMap]
  simp only [(Script.orderedEntities_perm s options.order).mem_iff, IndexDefinition.ofEntity,
    List.mem_map, List.mem_filter]
  constructor
  · rintro ⟨e, he, f, ⟨hf, hindexed⟩, rfl⟩
    exact ⟨rfl, e, he, rfl, f, hf, hindexed, rfl⟩
  · rintro ⟨hname, e, he, htable, f, hf, hindexed, hcolumn⟩
    refine ⟨e, he, f, ⟨hf, hindexed⟩, ?_⟩
    rw [htable, hcolumn, ← hname]

/-- In a script of an accepted schema the names of indexes are distinct just when the columns are
kept apart. -/
theorem nodup_indexNames_iff (hs : v.Accepts s) :
    (Script.ofSchema s options).indexNames.Nodup ↔ s.SeparatesIndexes := by
  have hcolumns : ((Script.ofSchema s options).indexes.flatten.map fun i =>
      (i.table, i.column)).Nodup :=
    Script.nodup_indexes (nodup_map_of_comp hs.entityNames)
      fun e he => nodup_map_of_comp (hs.fieldNames e he)
  rw [Script.indexNames_eq, List.nodup_map_iff_inj_on (List.Nodup.of_map _ hcolumns)]
  constructor
  · intro h table column table' column' hindex hindex' hsame
    have heq := h ⟨nameFor table column, table, column⟩
      (mem_indexes_ofSchema_iff.2 ⟨rfl, hindex⟩) ⟨nameFor table' column', table', column'⟩
      (mem_indexes_ofSchema_iff.2 ⟨rfl, hindex'⟩) (nameFor_eq_iff.2 hsame)
    exact ⟨congrArg IndexDefinition.table heq, congrArg IndexDefinition.column heq⟩
  · intro h i hi i' hi' hname
    obtain ⟨hi, hindex⟩ := mem_indexes_ofSchema_iff.1 hi
    obtain ⟨hi', hindex'⟩ := mem_indexes_ofSchema_iff.1 hi'
    rw [hi, hi'] at hname
    obtain ⟨htable, hcolumn⟩ := h _ _ _ _ hindex hindex' (nameFor_eq_iff.1 hname)
    cases i
    cases i'
    simp_all

/-- Where names are plain and no table is named like another one with an underscore and more
behind it, the columns are kept apart. -/
theorem separatesIndexes_of_plain (hs : v.Accepts s)
    (hplain : ∀ e ∈ s.entities, IsPlain e.name ∧ ∀ f ∈ e.fields, IsPlain f.name)
    (hapart : ∀ e ∈ s.entities, ∀ e' ∈ s.entities,
      ¬ folded e.name ++ ['_'] <+: folded e'.name) : s.SeparatesIndexes := by
  rintro _ _ _ _ ⟨e, he, rfl, f, hf, -, rfl⟩ ⟨e', he', rfl, f', hf', -, rfl⟩ hsame
  cases hsame with
  | alike htable hcolumn =>
      rw [(hplain e he).1.folded_eq_nameKey, (hplain e' he').1.folded_eq_nameKey] at htable
      obtain rfl := List.inj_on_of_nodup_map hs.entityNames he he' htable
      rw [((hplain e he).2 f hf).folded_eq_nameKey,
        ((hplain e he).2 f' hf').folded_eq_nameKey] at hcolumn
      obtain rfl := List.inj_on_of_nodup_map (hs.fieldNames e he) hf hf' hcolumn
      exact ⟨rfl, rfl⟩
  | longer piece htable _ =>
      exact absurd ⟨piece, by simp [htable]⟩ (hapart e he e' he')
  | shorter piece htable _ =>
      exact absurd ⟨piece, by simp [htable]⟩ (hapart e' he' e he)

/-- The script of an accepted schema is written statement by statement, and the names of its indexes
are distinct just when no two columns with an index lead to one name. Plain names of tables that do
not go on with an underscore where another one ends are enough. -/
theorem toScript_index_names (hvalid : (v.validate s).isValid = true) (options : ScriptOptions) :
    Script.Spaced ((Script.ofSchema s options).statements.map
        (Script.Statement.text options.dialect)) (s.toScript options) ∧
      ((Script.ofSchema s options).indexNames.Nodup ↔ s.SeparatesIndexes) ∧
      ((∀ e ∈ s.entities, IsPlain e.name ∧ ∀ f ∈ e.fields, IsPlain f.name) →
        (∀ e ∈ s.entities, ∀ e' ∈ s.entities, ¬ folded e.name ++ ['_'] <+: folded e'.name) →
        (Script.ofSchema s options).indexNames.Nodup) := by
  have hs : v.Accepts s := (v.reports_errors s).eq_nil_iff.1 (List.isEmpty_iff.1 hvalid)
  exact ⟨Script.spaced_toScript s options, nodup_indexNames_iff hs, fun hplain hapart =>
    (nodup_indexNames_iff hs).2 (separatesIndexes_of_plain hs hplain hapart)⟩

/-- The indexes of enrolments have names of their own. -/
theorem toScript_index_names_enrolments :
    ((⟨none, .standard⟩ : Validator).validate enrolments).isValid = true ∧
      (Script.ofSchema enrolments .recreate).indexNames =
        ["idx_enrolments_student", "idx_enrolments_course"] ∧
      ((Script.ofSchema enrolments .recreate).indexNames.Nodup ↔ enrolments.SeparatesIndexes) ∧
      (Script.ofSchema enrolments .recreate).indexNames.Nodup := by
  have hvalid : ((⟨none, .standard⟩ : Validator).validate enrolments).isValid = true := by
    decide +kernel
  obtain ⟨-, hiff, hnodup⟩ := toScript_index_names hvalid .recreate
  exact ⟨hvalid, by decide +kernel, hiff, hnodup (by decide +kernel) (by decide +kernel)⟩

/-- People lead teams and are members of teams. -/
def teams : Schema := syncForeignKeys
  { entities :=
      [{ id := ⟨"e1"⟩
         name := "people"
         fields := [{ id := ⟨"f1"⟩, name := "id", dataType := "INT", isPrimaryKey := true }]
         position := .origin },
       { id := ⟨"e2"⟩
         name := "team"
         fields := [{ id := ⟨"f1"⟩, name := "id", dataType := "INT", isPrimaryKey := true },
           { id := ⟨"f2"⟩, name := "member_id", dataType := "INT" }]
         position := .origin },
       { id := ⟨"e3"⟩
         name := "team_member"
         fields := [{ id := ⟨"f1"⟩, name := "id", dataType := "INT", isPrimaryKey := true }]
         position := .origin }]
    relationships :=
      [⟨⟨"r1"⟩, ⟨⟨"e1"⟩, ⟨"f1"⟩⟩, ⟨⟨"e2"⟩, ⟨"f2"⟩⟩, .oneToMany⟩,
        ⟨⟨"r2"⟩, ⟨⟨"e1"⟩, ⟨"f1"⟩⟩, ⟨⟨"e3"⟩, ⟨"f1"⟩⟩, .oneToMany⟩] }

/-- The index on a column of one table has the name of the index on a column of another one. -/
theorem index_names_not_nodup_teams :
    ((⟨none, .standard⟩ : Validator).validate teams).isValid = true ∧
      (Script.ofSchema teams { dialect := .postgreSql }).indexNames =
        ["idx_team_member_id", "idx_team_member_id"] ∧
      ¬ ∀ (v : Validator) (s : Schema) (options : ScriptOptions),
        (v.validate s).isValid = true → (Script.ofSchema s options).indexNames.Nodup := by
  have hvalid : ((⟨none, .standard⟩ : Validator).validate teams).isValid = true := by
    decide +kernel
  refine ⟨hvalid, by decide +kernel, fun h => ?_⟩
  have hnodup := h _ teams { dialect := .postgreSql } hvalid
  revert hnodup
  decide +kernel

end Schema

end EntityRelation
