import EntityRelation.Proofs.Ddl.ColumnTexts
import EntityRelation.Proofs.Ddl.Findings

/-!
# The types and default values of imported columns

Every type and every default value of an imported schema stands in a clause that defines a column
(`texts_of_importScript`). In a clause of a table body the parentheses match, since the body is what
stands in a group (`DefinesColumn.isBalanced`). The clause of an added column is only cut at commas:
a parenthesis too many becomes part of its type (`importScript_unbalancedType`).
-/

namespace EntityRelation

namespace Ddl

open Clause

/-- The clause is one in which the statement defines a column. -/
inductive Statement.DefinesColumn (s : Statement) : Clause → Prop where
  | table {name : String} {body clause : Clause} (header : s.header? = some (.ok (name, body)))
      (part : clause ∈ body.splitTopLevel) (defines : TableConstraint.ofClause? clause = none) :
      s.DefinesColumn clause
  | addition {rest actions action clause : Clause} {name : String}
      (kind : s.kind = .alterTable rest)
      (table : ((rest.skip [.only]).skip [.ifWord, .existsWord]).tableName? = some (name, actions))
      (part : action ∈ actions.splitTopLevel) (adds : action.after? [.add] = some clause)
      (defines : TableConstraint.ofClause? clause = none) :
      s.DefinesColumn ((clause.skip [.column]).skip [.ifWord, .notWord, .existsWord])

namespace Statement.DefinesColumn

variable {s : Statement} {c : Clause}

theorem outside (h : s.DefinesColumn c) : c.Outside NoComma 0 := by
  cases h with
  | table _ part _ => exact outside_of_mem_splitTopLevel part
  | addition _ _ part adds _ =>
      exact (((outside_of_mem_splitTopLevel part).after? adds).skip [.column]).skip
        [.ifWord, .notWord, .existsWord]

/-- A table body is the inside of a group. -/
theorem isBalanced_of_tableHeader {body : Clause} {name : String}
    (h : tableHeader c = .ok (name, body)) : body.isBalanced 0 = true := by
  rw [tableHeader] at h
  split at h
  · cases h
  · split at h
    · cases h
    · split at h
      · split at h
        · cases h
        · cases h
        · next hclose =>
          obtain ⟨-, rfl⟩ := Prod.mk.inj (Except.ok.inj h)
          exact isBalanced_of_closeGroup? hclose
      · cases h

/-- In the clauses of a table body the parentheses match. -/
theorem isBalanced (h : s.DefinesColumn c) (hs : s.createsTable = true) :
    c.isBalanced 0 = true := by
  rw [createsTable] at hs
  cases h with
  | table header part _ =>
      rw [header?] at header
      split at header
      · exact (tidy_of_mem_splitTopLevel
          (isBalanced_of_tableHeader (Option.some.inj header)) part).balanced
      · cases header
  | addition kind _ _ _ _ =>
      rw [kind] at hs
      cases hs

end Statement.DefinesColumn

/-- The type and the default value of a field. -/
def textsOf (f : Field) : String × Option String :=
  (f.dataType, f.defaultValue)

theorem unflagged_textsOf : TableDraft.Unflagged textsOf :=
  ⟨fun _ => rfl, fun _ => rfl⟩

/-- The texts of a column definition have a property. -/
def ColumnTexts (R : String × Option String → Prop) (c : Clause) : Prop :=
  ∀ column, Column.ofClause c = .ok column → R (column.storedType, column.defaultValue)

variable {R : String × Option String → Prop}

/-! ## One table -/

namespace TableDraft

/-- The texts of all fields of the table have a property. -/
def TextsIn (R : String × Option String → Prop) (d : TableDraft) : Prop :=
  ∀ f ∈ d.entity.fields, R (textsOf f)

namespace TextsIn

variable {d : TableDraft} {index line : Nat}

theorem addColumn (h : d.TextsIn R) {clause : Clause} (hclause : ColumnTexts R clause) :
    (d.addColumn index line clause).TextsIn R := by
  rw [TableDraft.addColumn]
  split
  · exact h
  · next column hcolumn =>
    have hpush : ∀ d' : TableDraft, d'.TextsIn R → (d'.pushColumn index column).TextsIn R :=
      fun d' hd' => forall_mem_concat hd' (hclause column hcolumn)
    split
    · exact h
    · split
      · exact hpush d h
      · exact hpush (d.addKey _) h

theorem addColumns (h : d.TextsIn R) {clauses : List Clause}
    (hclauses : ∀ c ∈ clauses, TableConstraint.ofClause? c = none → ColumnTexts R c) :
    (d.addColumns index line clauses).TextsIn R := by
  rw [TableDraft.addColumns]
  have hcolumns : ∀ c ∈ clauses.filter (fun c => (TableConstraint.ofClause? c).isNone),
      ColumnTexts R c := by
    intro c hc
    obtain ⟨hmem, hnone⟩ := List.mem_filter.1 hc
    exact hclauses c hmem (Option.isNone_iff_eq_none.1 hnone)
  generalize clauses.filter (fun c => (TableConstraint.ofClause? c).isNone) = columns at hcolumns
  induction columns generalizing d with
  | nil => exact h
  | cons c rest ih =>
      exact ih (h.addColumn (hcolumns c List.mem_cons_self))
        fun c' hc' => hcolumns c' (List.mem_cons_of_mem c hc')

/-- Texts are kept where they are the same. -/
theorem of_map_eq {d' : TableDraft} (h : d.TextsIn R)
    (hmap : d'.entity.fields.map textsOf = d.entity.fields.map textsOf) : d'.TextsIn R := by
  have hall := List.forall_mem_map.2 h
  rw [← hmap] at hall
  exact List.forall_mem_map.1 hall

theorem addAction (h : d.TextsIn R) {action : Clause}
    (haction : ∀ clause, action.after? [.add] = some clause →
      TableConstraint.ofClause? clause = none →
      ColumnTexts R ((clause.skip [.column]).skip [.ifWord, .notWord, .existsWord])) :
    (d.addAction index line action).TextsIn R := by
  rw [TableDraft.addAction]
  split
  · exact h
  · next clause hafter =>
    split
    · exact h.of_map_eq (map_fields_applyConstraint unflagged_textsOf d _)
    · next hnone => exact h.addColumn (haction clause hafter hnone)

end TextsIn

end TableDraft

/-! ## All tables -/

namespace Draft

/-- The texts of all fields of the draft have a property. -/
def TextsIn (R : String × Option String → Prop) (draft : Draft) : Prop :=
  ∀ e ∈ draft.entities, ∀ f ∈ e.fields, R (textsOf f)

namespace TextsIn

variable {draft : Draft} {s : Statement}

theorem empty : TextsIn R {} :=
  fun _ he => absurd he List.not_mem_nil

theorem addTable (h : draft.TextsIn R) (hs : ∀ c, s.DefinesColumn c → ColumnTexts R c)
    {name : String} {body : Clause} (hheader : s.header? = some (.ok (name, body))) :
    (draft.addTable s name body).TextsIn R := by
  have hcolumns : TableDraft.TextsIn R ((newTable draft.entities.length s name).addColumns
      draft.entities.length s.line body.splitTopLevel) :=
    TableDraft.TextsIn.addColumns (fun f hf => nomatch hf)
      fun c hc hnone => hs c (.table hheader hc hnone)
  rw [Draft.addTable]
  split
  · exact h
  · dsimp only
    split
    · exact h
    · exact forall_mem_concat h (hcolumns.of_map_eq
        (TableDraft.map_fields_applyConstraints unflagged_textsOf _ _))

theorem alterTable (h : draft.TextsIn R) (hs : ∀ c, s.DefinesColumn c → ColumnTexts R c)
    {rest : Clause} (hkind : s.kind = .alterTable rest) :
    (draft.alterTable s rest).TextsIn R := by
  rw [Draft.alterTable]
  split
  · exact h
  · next name actions hname =>
    split
    · exact h
    · next index _ =>
      split
      · exact h
      · next entity hentity =>
        have hactions : ∀ (d : TableDraft) (parts : List Clause), parts ⊆ actions.splitTopLevel →
            d.TextsIn R → (parts.foldl (TableDraft.addAction index s.line) d).TextsIn R := by
          intro d parts hparts hd
          induction parts generalizing d with
          | nil => exact hd
          | cons action parts ih =>
              obtain ⟨haction, hrest⟩ := List.cons_subset.1 hparts
              exact ih _ hrest (hd.addAction fun clause hafter hnone =>
                hs _ (.addition hkind hname haction hafter hnone))
        exact forall_mem_set h (hactions { entity } _ (List.Subset.refl _)
          (h entity (List.mem_of_getElem? hentity)))

theorem add (h : draft.TextsIn R) (hs : ∀ c, s.DefinesColumn c → ColumnTexts R c) :
    (draft.add s).TextsIn R := by
  rw [Draft.add]
  split
  · next rest hkind =>
    rw [createTable]
    split
    · exact h
    · next header =>
      refine h.addTable hs ?_
      rw [Statement.header?, hkind, ← header]
  · next rest hkind => exact h.alterTable hs hkind
  · exact h

theorem foldl_add (h : draft.TextsIn R) {statements : List Statement}
    (hs : ∀ s ∈ statements, ∀ c, s.DefinesColumn c → ColumnTexts R c) :
    (statements.foldl Draft.add draft).TextsIn R := by
  induction statements generalizing draft with
  | nil => exact h
  | cons s rest ih =>
      exact ih (h.add (hs s List.mem_cons_self)) fun t ht => hs t (List.mem_cons_of_mem s ht)

end TextsIn

end Draft

/-- The texts stand in a clause that defines a column. In the clauses of a table body the
parentheses match. -/
def StandIn (statements : List Statement) (t : String × Option String) : Prop :=
  ∃ s ∈ statements, ∃ c, s.DefinesColumn c ∧ (s.createsTable = true → c.isBalanced 0 = true) ∧
    c.HasTexts t.1 t.2

theorem Draft.textsIn_standIn (statements : List Statement) :
    (statements.foldl Draft.add {}).TextsIn (StandIn statements) := by
  have hclauses : ∀ s ∈ statements, ∀ c, s.DefinesColumn c →
      ColumnTexts (StandIn statements) c := by
    intro s hs c hc column hcolumn
    have htexts := Column.hasTexts_of_ofClause hc.outside hcolumn
    exact ⟨s, hs, c, hc, hc.isBalanced, htexts⟩
  exact Draft.TextsIn.empty.foldl_add hclauses

/-- The foreign key view has no part in the texts of a field. -/
theorem exists_of_mem_syncForeignKeys {s : Schema} {e : Entity}
    (he : e ∈ s.syncForeignKeys.entities) {f : Field} (hf : f ∈ e.fields) :
    ∃ e' ∈ s.entities, ∃ f' ∈ e'.fields, textsOf f' = textsOf f := by
  have hbare : e.bare ∈ s.bare.entities := by
    rw [← s.bare_syncForeignKeys, Schema.bare_entities]
    exact List.mem_map_of_mem he
  obtain ⟨e', he', heq⟩ := List.mem_map.1 hbare
  have hfields : e'.bare.fields = e.bare.fields := congrArg Entity.fields heq
  have hfield : f.clearReference ∈ e'.bare.fields := by
    rw [hfields]
    exact List.mem_map_of_mem hf
  obtain ⟨f', hf', hclear⟩ := List.mem_map.1 hfield
  have htexts : ∀ g : Field, textsOf g.clearReference = textsOf g := fun _ => rfl
  exact ⟨e', he', f', hf', by rw [← htexts f', hclear, htexts]⟩

/-- The type and the default value of an imported column are cut out of a clause that defines a
column. The parentheses match in the type, and no comma stands outside its groups, where they match
in the clause; the same goes for the default value, unless a modifier passes unread over the
parenthesis that opens a group. -/
theorem texts_of_importScript {sql : String} {report : ImportReport}
    (h : importScript sql = .ok report) :
    ∃ ls, Lexer.lexemes sql = .ok ls ∧ ∀ e ∈ report.schema.entities, ∀ f ∈ e.fields,
      StandIn (Statement.ofLexemes ls) (textsOf f) := by
  rw [importScript] at h
  split at h
  · cases h
  · next ls hlexemes =>
    refine ⟨ls, hlexemes, fun e he f hf => ?_⟩
    rw [(Draft.of_finish h).2] at he
    obtain ⟨e', he', f', hf', hsame⟩ := exists_of_mem_syncForeignKeys he hf
    rw [← hsame]
    exact Draft.textsIn_standIn _ e' he' f' hf'

/-- A table with a default value in parentheses, and an added column. -/
def invoiceScript : String :=
  "CREATE TABLE invoice (id INT IDENTITY, total NUMERIC(10, 2) DEFAULT (1 + (2)));
   ALTER TABLE invoice ADD note VARCHAR(9) DEFAULT 'none';"

theorem texts_of_importScript_invoice : ∃ report, importScript invoiceScript = .ok report ∧
    ∃ ls, Lexer.lexemes invoiceScript = .ok ls ∧
      ∀ e ∈ report.schema.entities, ∀ f ∈ e.fields,
        StandIn (Statement.ofLexemes ls) (textsOf f) := by
  have hok : (importScript invoiceScript).isOk = true := by
    decide +kernel
  cases hreport : importScript invoiceScript with
  | error e =>
      rw [hreport] at hok
      cases hok
  | ok report => exact ⟨report, rfl, texts_of_importScript hreport⟩

/-- A table with an added column, after which stands a parenthesis too many. -/
def overclosedScript : String :=
  "CREATE TABLE t (id INT); ALTER TABLE t ADD c INT);"

/-- The parenthesis becomes part of the type, without a warning. -/
theorem importScript_unbalancedType : ∃ report, importScript overclosedScript = .ok report ∧
    report.warnings = [] ∧ report.skipped = [] ∧
    (∃ e ∈ report.schema.entities, ∃ f ∈ e.fields, f.dataType = "INT)") ∧
    ∃ ls, Lexer.lexemes "INT)" = .ok ls ∧ isBalanced 0 ls = false := by
  have hcheck : ((importScript overclosedScript).toOption.any fun report =>
      report.warnings.isEmpty && report.skipped.isEmpty &&
        report.schema.entities.any fun e => e.fields.any (·.dataType == "INT)")) = true := by
    decide +kernel
  have hlexemes : ((Lexer.lexemes "INT)").toOption.any fun ls => !isBalanced 0 ls) = true := by
    decide +kernel
  cases hreport : importScript overclosedScript with
  | error e =>
      rw [hreport] at hcheck
      cases hcheck
  | ok report =>
      cases hls : Lexer.lexemes "INT)" with
      | error e =>
          rw [hls] at hlexemes
          cases hlexemes
      | ok ls =>
          simpa [hreport, hls, Except.toOption, and_assoc] using And.intro hcheck hlexemes

end Ddl

end EntityRelation
