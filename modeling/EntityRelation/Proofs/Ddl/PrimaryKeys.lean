import EntityRelation.Proofs.Ddl.KeyColumns
import EntityRelation.Proofs.Ddl.SpellingsAgree

/-!
# Primary keys of tables

The columns of a primary key are read where they follow the words `PRIMARY KEY` at once, and then
each of them is in the key of the table or there is a warning that the table has no such column
(`importStatements_primaryKey`). Unlike with foreign keys and unique constraints no word is passed
over in front of the columns: behind a word, as in `PRIMARY KEY CLUSTERED (id)`, the clause names no
columns. It does nothing then, and there is no warning.
-/

namespace EntityRelation

namespace Ddl

open Clause

/-! ## The clause of a primary key -/

/-- The lexemes of any name of a constraint, which may be left out. -/
inductive IsLabel : Clause → Prop where
  | unnamed : IsLabel []
  | named {l m : Lexeme} (hl : l.keyword? = some .constraint) (hm : m.isName = true) :
      IsLabel [l, m]

/-- The lexemes of a primary key of a table: the words `PRIMARY KEY` behind a label, more words, and
names of columns between parentheses, with anything behind them. -/
inductive IsPrimaryKey (label words : Clause) (columns : List String) : Clause → Prop where
  | intro {primary key : Lexeme} {group tail : Clause} (hlabel : IsLabel label)
      (hprimary : primary.keyword? = some .primary) (hkey : key.keyword? = some .key)
      (hwords : ∀ l ∈ words, l.token.isWord = true) (hgroup : IsNameGroup columns group) :
      IsPrimaryKey label words columns (label ++ primary :: key :: (words ++ (group ++ tail)))

namespace TableConstraint

variable {primary key m : Lexeme} {rest c label words : Clause} {columns : List String}

theorem body?_primaryKey (hprimary : primary.keyword? = some .primary)
    (hkey : key.keyword? = some .key) :
    body? (primary :: key :: rest) = some (.primaryKey (columnGroup rest).1) := by
  rw [body?, after?_cons hprimary, after?_cons hkey, after?]

/-- Without a group there are no columns. -/
theorem columnGroup_of_startsGroup (h : c.startsGroup = false) : columnGroup c = ([], c) := by
  cases c with
  | nil => rfl
  | cons l c =>
      have hleft : l.token ≠ .leftParen := beq_eq_false_iff_ne.1 h
      rw [columnGroup, group?, if_neg hleft]

theorem startsGroup_of_isWord (hm : m.token.isWord = true) : startsGroup (m :: rest) = false := by
  refine beq_eq_false_iff_ne.2 fun heq => ?_
  rw [heq] at hm
  cases hm

/-- A constraint that does nothing to a table. -/
def Idle (constraint : TableConstraint) : Prop :=
  ∀ line d, TableDraft.applyConstraint line d constraint = d

/-- A word for the kind of a constraint in the place of its name hides the words `PRIMARY KEY`. -/
theorem idle_body?_of_keyword (hprimary : primary.keyword? = some .primary)
    (hkey : key.keyword? = some .key) :
    Idle ((body? (m :: primary :: key :: rest)).getD .ignored) := by
  have hsecond : ∀ k, after? [k, .key] (m :: primary :: key :: rest) = none := by
    intro k
    rw [after?]
    split
    · exact after?_cons_ne (by simp [hprimary])
    · rfl
  rw [body?, hsecond, hsecond]
  dsimp only
  by_cases hunique : m.isKeyword .unique = true
  · have hword : key.token.isWord = true := by
      obtain ⟨_, htoken⟩ := isWord_of_keyword? hkey
      rw [htoken]
      rfl
    have hskip : skipAny [.key, .index] (primary :: key :: rest) = primary :: key :: rest := by
      rw [skipAny, if_neg (by simp [Lexeme.isAny, Lexeme.isKeyword, hprimary])]
    have hgroup : toGroup (primary :: key :: rest) = key :: rest := by
      rw [toGroup, if_neg (by simp [startsGroup, (paren_of_keyword? hprimary).1])]
      rfl
    rw [after?, if_pos hunique, after?]
    dsimp only
    rw [hskip, hgroup, columnGroup_of_startsGroup (startsGroup_of_isWord hword)]
    exact fun line d => rfl
  · rw [after?, if_neg hunique]
    exact fun line d => rfl

end TableConstraint

namespace IsPrimaryKey

open TableConstraint

variable {label words c : Clause} {columns : List String}

/-- The clause is read as a constraint: as its columns, or as nothing. -/
theorem ofClause?_eq (h : IsPrimaryKey label [] columns c) (hlabel : IsConstraintName label) :
    ofClause? c = some (.primaryKey columns) := by
  cases h with
  | @intro primary key group tail _ hprimary hkey hwords hgroup =>
      have hbody : body? (primary :: key :: (group ++ tail)) = some (.primaryKey columns) := by
        rw [body?_primaryKey hprimary hkey, hgroup.columnGroup]
      rw [List.nil_append]
      exact hlabel.ofClause?_append (by rw [hprimary]; decide) hbody

/-- Behind a word, or with a keyword for the name, the clause does nothing. -/
theorem exists_idle (h : IsPrimaryKey label words columns c)
    (hlost : ¬(words = [] ∧ IsConstraintName label)) :
    ∃ constraint, ofClause? c = some constraint ∧ constraint.Idle := by
  cases h with
  | @intro primary key group tail hlabel hprimary hkey hwords hgroup =>
      have hbody : words ≠ [] → body? (primary :: key :: (words ++ (group ++ tail))) =
          some (.primaryKey []) := by
        intro hne
        obtain ⟨l, more, rfl⟩ := List.exists_cons_of_ne_nil hne
        rw [body?_primaryKey hprimary hkey, List.cons_append,
          columnGroup_of_startsGroup (startsGroup_of_isWord (hwords l List.mem_cons_self))]
      have hidle : Idle (.primaryKey []) := fun line d => rfl
      cases hlabel with
      | unnamed =>
          have hne : words ≠ [] := fun hnil => hlost ⟨hnil, .unnamed⟩
          rw [List.nil_append, ofClause?, after?_cons_ne (by rw [hprimary]; decide), hbody hne]
          exact ⟨_, rfl, hidle⟩
      | @named l m hl hm =>
          rw [List.cons_append, ofClause?, after?_cons hl, after?]
          dsimp only
          refine ⟨_, rfl, ?_⟩
          rw [List.cons_append, List.nil_append]
          cases hkind : m.isAny kinds with
          | false =>
              have hne : words ≠ [] := fun hnil => hlost ⟨hnil, .named hl hm hkind⟩
              rw [afterName_cons hkind, hbody hne]
              exact hidle
          | true =>
              have hstart : startsWithAny kinds (m :: primary :: key ::
                  (words ++ (group ++ tail))) = true := hkind
              rw [afterName, if_pos hstart]
              exact idle_body?_of_keyword hprimary hkey

end IsPrimaryKey

/-! ## Tables with the clause -/

namespace TableDraft

variable {index line : Nat} {clause : Clause} {constraint : TableConstraint}
  {front back : List Clause}

theorem addColumns_drop (h : TableConstraint.ofClause? clause = some constraint) (d : TableDraft) :
    d.addColumns index line (front ++ clause :: back) =
      d.addColumns index line (front ++ back) := by
  simp [addColumns, h]

theorem applyConstraints_append (d : TableDraft) :
    d.applyConstraints line (front ++ back) =
      (d.applyConstraints line front).applyConstraints line back := by
  simp [applyConstraints]

theorem applyConstraints_split (h : TableConstraint.ofClause? clause = some constraint)
    (d : TableDraft) : d.applyConstraints line (front ++ clause :: back) =
      ((d.applyConstraints line front).applyConstraint line constraint).applyConstraints line
        back := by
  simp [applyConstraints, h]

end TableDraft

namespace Draft

variable {d : Draft} {s : Statement} {name : String} {clause : Clause} {front back : List Clause}
  {constraint : TableConstraint}

/-- A clause that does nothing may as well be left out. -/
theorem tableOf_drop (h : TableConstraint.ofClause? clause = some constraint)
    (hidle : constraint.Idle) :
    d.tableOf s name (front ++ clause :: back) = d.tableOf s name (front ++ back) := by
  rw [tableOf, tableOf, columnsOf, columnsOf, TableDraft.addColumns_drop h,
    TableDraft.applyConstraints_split h, hidle, ← TableDraft.applyConstraints_append]

/-- Among the clauses of a table a constraint is applied to a table with all the columns, and what
the later clauses do to this table is growth. -/
theorem tableOf_split (d : Draft) (s : Statement) (name : String) {clauses : List Clause}
    (hclauses : clauses = front ++ clause :: back)
    (h : TableConstraint.ofClause? clause = some constraint) :
    ∃ before : TableDraft, before.entity.name = name ∧
      before.entity.id = entityIdAt d.entities.length ∧
      (∀ column, ((d.tableOf s name clauses).entity.fieldNamed? column).isSome =
        (before.entity.fieldNamed? column).isSome) ∧
      TableDraft.Grows (back.flatMap Clause.keyNames) (before.applyConstraint s.line constraint)
        (d.tableOf s name clauses) := by
  let before := (d.columnsOf s name clauses).applyConstraints s.line front
  have hextends : TableDraft.Extends d.entities.length (fun _ => True)
      (newTable d.entities.length s name) before :=
    (TableDraft.extends_addColumns (fun _ _ _ _ => trivial) _).trans
      (TableDraft.extends_applyConstraints front _)
  have htable : d.tableOf s name clauses =
      (before.applyConstraint s.line constraint).applyConstraints s.line back := by
    rw [tableOf]
    exact (congrArg _ hclauses).trans (TableDraft.applyConstraints_split h _)
  refine ⟨before, hextends.name_eq, hextends.id_eq, fun column => ?_, ?_⟩
  · rw [htable, TableDraft.isSome_fieldNamed?_applyConstraints,
      TableDraft.isSome_fieldNamed?_applyConstraint]
  · rw [htable]
    exact TableDraft.grows_applyConstraints
      (fun c hc _ hkey => List.mem_flatMap.2 ⟨c, hc, hkey⟩) _

/-- The columns of a primary key that are there are in the key of the table, and there is a warning
about each of the others. -/
theorem tableOf_primaryKey (d : Draft) (s : Statement) (name : String) {clauses : List Clause}
    (hclauses : clauses = front ++ clause :: back) {columns : List String} {column : String}
    (h : TableConstraint.ofClause? clause = some (.primaryKey columns))
    (hcolumn : column ∈ columns) :
    (((d.tableOf s name clauses).entity.fieldNamed? column).isSome = true →
        (d.tableOf s name clauses).entity.isKeyColumn column = true) ∧
      ((d.tableOf s name clauses).entity.fieldNamed? column = none →
        ⟨s.line, .unknownKeyColumn name column⟩ ∈ (d.tableOf s name clauses).warnings) := by
  obtain ⟨before, rfl, -, hthere, hgrows⟩ := d.tableOf_split s name hclauses h
  obtain ⟨hmarked, hwarned⟩ := @TableDraft.applyConstraint_primaryKey s.line _ _ hcolumn before
  constructor
  · exact fun hsome => hgrows.key_kept column (hmarked ((hthere column).symm.trans hsome))
  · intro hnone
    have hbefore := hthere column
    rw [hnone, Option.isSome_none, eq_comm, Option.isSome_eq_false_iff,
      Option.isNone_iff_eq_none] at hbefore
    exact hgrows.warnings.subset (hwarned hbefore)

end Draft

/-- A statement that creates a table with a primary key among its clauses: where the columns follow
at once, all of them are in the key of the table or there is a warning that the table has no such
column. Otherwise the statement does what it would do without the clause. -/
theorem importStatements_primaryKey {before after : List Statement} {s : Statement} {name : String}
    {body : Clause} {e : Entity} {front back : List Clause} {clause label words : Clause}
    {columns : List String} (hs : s.header? = some (.ok (name, body)))
    (he : ((before.foldl Draft.add {}).add s).entities =
      (before.foldl Draft.add {}).entities ++ [e])
    (hbody : body.splitTopLevel = front ++ clause :: back)
    (hclause : IsPrimaryKey label words columns clause) :
    ∃ report, importStatements (before ++ s :: after) = .ok report ∧
      (words = [] → IsConstraintName label → ∀ column ∈ columns,
        ((e.fieldNamed? column).isSome = true → ∃ table,
          report.schema.entityNamed? name = some table ∧ table.isKeyColumn column = true) ∧
        (e.fieldNamed? column = none → ⟨s.line, .unknownKeyColumn name column⟩ ∈ report.warnings)) ∧
      (¬(words = [] ∧ IsConstraintName label) →
        let draft := before.foldl Draft.add {}
        let table := draft.tableOf s name (front ++ back)
        draft.add s =
          { draft.absorb table with entities := draft.entities ++ [table.entity] }) := by
  generalize hdraft : before.foldl Draft.add {} = draft at he
  have hadd : draft.add s = draft.addTable s name body := Draft.add_of_header? hs
  rw [hadd] at he
  obtain ⟨hentity, -⟩ := Draft.addTable_eq he
  obtain ⟨hnew, hfields⟩ : draft.schema.entityNamed? name = none ∧
      (draft.columnsOf s name body.splitTopLevel).entity.fields ≠ [] := by
    refine (draft.addTable_cases s name body).resolve_left fun hsame => ?_
    rw [hsame] at he
    exact absurd (congrArg List.length he) (by simp)
  rw [Draft.addTable_eq_of_columns hnew hfields] at hadd
  have hfound : (draft.add s).schema.entityNamed? name = some e := by
    have hsame : Text.sameName e.name name = true := by
      rw [← hentity, (draft.name_tableOf s name _).1]
      exact beq_self_eq_true _
    rw [hadd, hentity]
    exact (Draft.entityNamed?_concat hnew).trans (if_pos hsame)
  obtain ⟨e', he', hgrows⟩ := Draft.grows_foldl_add hfound after
  obtain ⟨report, hreport, hschema, hwarnings⟩ := Draft.finish_of_entityNamed? he'
  obtain ⟨table, htable, hbare⟩ := Draft.entityNamed?_linked he'
  refine ⟨report, ?_, ?_, ?_⟩
  · rw [importStatements, List.foldl_append, hdraft, List.foldl_cons, hreport]
  · rintro rfl hlabel column hcolumn
    have hstates := hclause.ofClause?_eq hlabel
    obtain ⟨hkey, hwarning⟩ := draft.tableOf_primaryKey s name hbody hstates hcolumn
    rw [hentity] at hkey hwarning
    constructor
    · intro hsome
      refine ⟨table, hschema ▸ htable, ?_⟩
      rw [← Entity.isKeyColumn_bare, hbare, Entity.isKeyColumn_bare]
      exact hgrows.key_kept column (hkey hsome)
    · intro hnone
      have hkept := (Draft.kept_foldl_add (draft.add s) after).1
      refine (hkept.trans hwarnings).subset ?_
      rw [hadd]
      exact List.mem_append_right _ (hwarning hnone)
  · intro hlost
    obtain ⟨constraint, hstates, hidle⟩ := hclause.exists_idle hlost
    dsimp only
    rw [hadd, hbody, Draft.tableOf_drop hstates hidle]

/-- The clauses `first INT` and `second INT`. -/
def pairColumns (first second : String) : List Clause :=
  [[first, "INT"].map Column.wordLexeme, [second, "INT"].map Column.wordLexeme]

/-- The clauses of a table with two columns and a constraint -/
def pairBody (first second : String) (constraint : Clause) : Clause :=
  ((pairColumns first second).map (· ++ [signLexeme .comma ","])).flatten ++ constraint

/-- `CREATE TABLE name (first INT, second INT, constraint)` -/
def pairTable (name first second : String) (constraint : Clause) : Statement where
  lexemes :=
    ["CREATE", "TABLE", name].map Column.wordLexeme ++ signLexeme .leftParen "(" ::
      pairBody first second constraint ++ [signLexeme .rightParen ")"]
  comments := []

/-- `(first, second)` -/
def pairGroup (first second : String) : Clause :=
  [signLexeme .leftParen "(", Column.wordLexeme first, signLexeme .comma ",",
    Column.wordLexeme second, signLexeme .rightParen ")"]

theorem isNameGroup_pairGroup (first second : String) :
    IsNameGroup [first, second] (pairGroup first second) :=
  ⟨_, [Column.wordLexeme first, signLexeme .comma ",", Column.wordLexeme second], _, rfl, rfl, rfl,
    ⟨rfl, by simp [Column.wordLexeme, signLexeme]⟩, rfl⟩

/-- `CONSTRAINT kept PRIMARY KEY (shop, lot)` with words in front of the columns. -/
def stockKey (words : List String) : Clause :=
  ["CONSTRAINT", "kept"].map Column.wordLexeme ++ Column.wordLexeme "PRIMARY" ::
    Column.wordLexeme "KEY" :: (words.map Column.wordLexeme ++ (pairGroup "shop" "lot" ++ []))

/-- The columns of the table `stock`. -/
def stockColumns : List Clause :=
  pairColumns "item" "shop"

/-- The clauses of the table `stock`. -/
def stockBody (words : List String) : Clause :=
  pairBody "item" "shop" (stockKey words)

/-- `CREATE TABLE stock` with two columns and this key -/
def stockTable (words : List String) : Statement :=
  pairTable "stock" "item" "shop" (stockKey words)

theorem isPrimaryKey_stockKey {words : List String}
    (h : ∀ word ∈ words, (Token.word word).isWord = true) :
    IsPrimaryKey (["CONSTRAINT", "kept"].map Column.wordLexeme) (words.map Column.wordLexeme)
      ["shop", "lot"] (stockKey words) := by
  refine .intro (.named (by decide) (by decide)) (by decide) (by decide) (fun l hl => ?_)
    (isNameGroup_pairGroup _ _)
  obtain ⟨word, hword, rfl⟩ := List.mem_map.1 hl
  exact h word hword

/-- The shop of a stock is in its key and there is no lot; if the key is clustered there is no key,
and nothing is said about the lot. -/
theorem importStatements_primaryKey_stock :
    (∃ report table, importStatements [stockTable []] = .ok report ∧
      report.schema.entityNamed? "stock" = some table ∧ table.isKeyColumn "shop" = true ∧
      ⟨1, .unknownKeyColumn "stock" "lot"⟩ ∈ report.warnings) ∧
    ({} : Draft).add (stockTable ["CLUSTERED"]) =
      let table := ({} : Draft).tableOf (stockTable ["CLUSTERED"]) "stock" stockColumns
      { ({} : Draft).absorb table with entities := [table.entity] } := by
  have hconstraint : IsConstraintName (["CONSTRAINT", "kept"].map Column.wordLexeme) :=
    .named (by decide) (by decide) (by decide)
  constructor
  · have hs : (stockTable []).header? = some (.ok ("stock", stockBody [])) := by decide +kernel
    have hbody : (stockBody []).splitTopLevel = stockColumns ++ [stockKey []] := by decide +kernel
    obtain ⟨e, he⟩ := List.length_eq_one_iff.1
      (by decide +kernel : (({} : Draft).add (stockTable [])).entities.length = 1)
    have hcolumns : (({} : Draft).add (stockTable [])).entities.all (fun e =>
        (e.fieldNamed? "shop").isSome && (e.fieldNamed? "lot").isNone) = true := by
      decide +kernel
    rw [he, List.all_cons, List.all_nil, Bool.and_true, Bool.and_eq_true,
      Option.isNone_iff_eq_none] at hcolumns
    obtain ⟨report, hreport, hkey, -⟩ :=
      @importStatements_primaryKey [] [] _ _ _ e _ _ _ _ _ _ hs he hbody
        (isPrimaryKey_stockKey nofun)
    obtain ⟨table, htable, hshop⟩ := (hkey rfl hconstraint "shop" (by decide)).1 hcolumns.1
    exact ⟨report, table, hreport, htable, hshop,
      (hkey rfl hconstraint "lot" (by decide)).2 hcolumns.2⟩
  · have hs : (stockTable ["CLUSTERED"]).header? =
        some (.ok ("stock", stockBody ["CLUSTERED"])) := by decide +kernel
    have hbody : (stockBody ["CLUSTERED"]).splitTopLevel =
        stockColumns ++ [stockKey ["CLUSTERED"]] := by decide +kernel
    obtain ⟨e, he⟩ := List.length_eq_one_iff.1
      (by decide +kernel : (({} : Draft).add (stockTable ["CLUSTERED"])).entities.length = 1)
    obtain ⟨-, -, -, hlost⟩ :=
      @importStatements_primaryKey [] [] _ _ _ e _ _ _ _ _ _ hs he hbody
        (isPrimaryKey_stockKey (by decide))
    exact hlost fun h => absurd h.1 (List.cons_ne_nil _ _)

/-- A clustered key is lost, and nothing is said about it. -/
theorem importScript_primaryKey_clustered : ∃ report table,
    importScript "CREATE TABLE t (id INT, PRIMARY KEY CLUSTERED (id));" = .ok report ∧
      report.schema.entityNamed? "t" = some table ∧ (table.fieldNamed? "id").isSome = true ∧
      table.isKeyColumn "id" = false ∧ report.warnings = [] ∧ report.skipped = [] := by
  have hcheck : ((importScript "CREATE TABLE t (id INT, PRIMARY KEY CLUSTERED (id));").toOption.any
      fun report => (report.schema.entityNamed? "t").any fun table =>
        (table.fieldNamed? "id").isSome && !table.isKeyColumn "id" && report.warnings.isEmpty &&
          report.skipped.isEmpty) = true := by
    decide +kernel
  obtain ⟨report, hreport, hcheck⟩ := (Option.any_eq_true _ _).1 hcheck
  obtain ⟨table, htable, hcheck⟩ := (Option.any_eq_true _ _).1 hcheck
  simp only [Bool.and_eq_true, Bool.not_eq_true', List.isEmpty_iff, and_assoc] at hcheck
  refine ⟨report, table, ?_, htable, hcheck⟩
  cases himport : importScript "CREATE TABLE t (id INT, PRIMARY KEY CLUSTERED (id));" with
  | error e =>
      rw [himport] at hreport
      cases hreport
  | ok other =>
      rw [himport] at hreport
      rw [Option.some.inj hreport]

end Ddl

end EntityRelation
