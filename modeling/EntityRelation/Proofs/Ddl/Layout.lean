import EntityRelation.Proofs.Ddl.Places

/-!
# Layout does not count

Of the layout of a script nothing reaches the schema but the gaps between neighbouring tokens of a
statement, which show in types and defaults, and the comments in front of a statement, where a
position may be noted. `scriptTokens` keeps these and forgets the rest: how long a gap is and what
it consists of, the comments inside a statement, and where anything stands. What an import gives is
a function of these tokens, up to the lines that its findings name (`importStatements_layout`).

Reading a statement commutes with forgetting the layout of it, and forgetting it in a draft of the
schema is to forget the lines. So the proof goes through the import step by step, and only the first
step looks at the lexemes of the script.
-/

namespace EntityRelation

namespace Ddl

/-! ## What is forgotten -/

/-- A token of a statement with what counts of its surroundings. -/
inductive ScriptToken where
  /-- The first token of a statement, and the comments since the statement before. -/
  | first (comments : List String) (token : Token) (text : String)
  /-- A further token, and whether there is a gap in front of it. -/
  | next (spaced : Bool) (token : Token) (text : String)
  deriving DecidableEq, Repr

/-- The token of a lexeme. Before a statement, `comments?` are the comments since the last one;
within a statement there are none. -/
def ScriptToken.of (comments? : Option (List String)) (l : Lexeme) : ScriptToken :=
  match comments? with
  | some comments => .first comments l.token l.text
  | none => .next l.spaced l.token l.text

/-- The tokens of the statements of a script, after comments as for `ScriptToken.of`. -/
def scriptTokens (comments? : Option (List String)) : List Lexeme → List ScriptToken
  | [] => []
  | l :: rest =>
    if l.token = .semicolon then scriptTokens (some (comments?.getD [])) rest
    else if l.token = .comment then scriptTokens (comments?.map (· ++ [l.text])) rest
    else .of comments? l :: scriptTokens none rest

/-- A skipped statement without its line. -/
def Skipped.unlined (s : Skipped) : Skipped :=
  { s with line := 1 }

/-- A warning without its line. -/
def Warning.unlined (w : Warning) : Warning :=
  { w with line := 1 }

/-- What an import gives, without the lines that it names. -/
def ImportReport.unlined (report : ImportReport) : ImportReport :=
  { report with
    skipped := report.skipped.map Skipped.unlined
    warnings := report.warnings.map Warning.unlined }

/-- Why an import gives nothing, without the line of the first table that was left out. -/
def ImportError.unlined : ImportError → ImportError
  | allSkipped first => allSkipped first.unlined
  | e => e

/-- The outcome of an import without the lines that it names. -/
def unlinedOutcome (outcome : Except ImportError ImportReport) : Except ImportError ImportReport :=
  (outcome.map ImportReport.unlined).mapError ImportError.unlined

/-! ## One table -/

/-- A pending foreign key without its line. -/
def PendingKey.unlined (key : PendingKey) : PendingKey :=
  { key with line := 1 }

namespace TableDraft

/-- The draft of a table without lines. -/
def unlined (t : TableDraft) : TableDraft :=
  { t with
    pendingKeys := t.pendingKeys.map PendingKey.unlined
    warnings := t.warnings.map Warning.unlined }

variable (index line : Nat) (t : TableDraft)

@[simp] theorem entity_unlined : t.unlined.entity = t.entity := rfl

theorem warn_unlined (cause : WarningCause) :
    t.unlined.warn 1 cause = (t.warn line cause).unlined := by
  simp [warn, unlined, Warning.unlined]

theorem addKey_unlined (key : PendingKey) :
    t.unlined.addKey key.unlined = (t.addKey key).unlined := by
  simp [addKey, unlined]

theorem addColumn_unlined (c : Clause) :
    t.unlined.addColumn index 1 c.unplaced = (t.addColumn index line c).unlined := by
  rw [addColumn, addColumn, Column.ofClause_unplaced]
  cases Column.ofClause c with
  | error fault => exact t.warn_unlined line _
  | ok column =>
      have hknown : t.unlined.entity.fieldNamed? column.name = t.entity.fieldNamed? column.name :=
        rfl
      by_cases htaken : (t.entity.fieldNamed? column.name).isSome = true
      · simp only [hknown, if_pos htaken]
        exact t.warn_unlined line _
      · simp only [hknown, if_neg htaken]
        cases column.reference with
        | none => rfl
        | some target =>
            have hkey := t.addKey_unlined
              ⟨t.entity.id, column.name, target.table, target.column, 0, line⟩
            exact congrArg (pushColumn · index column) hkey

theorem markPrimaryKey_unlined (name : String) :
    t.unlined.markPrimaryKey 1 name = (t.markPrimaryKey line name).unlined := by
  have hknown : t.unlined.entity.fieldNamed? name = t.entity.fieldNamed? name := rfl
  by_cases h : (t.entity.fieldNamed? name).isSome = true
  · simp only [markPrimaryKey, hknown, if_pos h]
    rfl
  · simp only [markPrimaryKey, hknown, if_neg h]
    exact t.warn_unlined line _

theorem keysOf_unlined (child : EntityId) (table : String) (columns referenced : List String) :
    keysOf child 1 table columns referenced =
      (keysOf child line table columns referenced).map PendingKey.unlined := by
  rw [keysOf, keysOf, List.mapIdx_eq_zipIdx_map, List.mapIdx_eq_zipIdx_map, List.map_map]
  rfl

theorem applyConstraint_unlined (constraint : TableConstraint) :
    t.unlined.applyConstraint 1 constraint = (t.applyConstraint line constraint).unlined := by
  fun_cases applyConstraint line t constraint with
  | case1 columns => exact List.foldl_hom unlined fun t name => t.markPrimaryKey_unlined line name
  | case2 name => rfl
  | case3 columns h => rw [applyConstraint]; exact h
  | case4 columns table referenced =>
      rw [applyConstraint, entity_unlined, keysOf_unlined line, List.foldl_map]
      exact List.foldl_hom unlined addKey_unlined
  | case5 columns referenced => exact t.warn_unlined line _
  | case6 => rfl

theorem addColumns_unlined (clauses : List Clause) :
    t.unlined.addColumns index 1 (clauses.map Clause.unplaced) =
      (t.addColumns index line clauses).unlined := by
  rw [addColumns, addColumns, List.filter_map, List.foldl_map]
  simp only [Function.comp_def, TableConstraint.ofClause?_unplaced]
  exact List.foldl_hom unlined (addColumn_unlined index line)

theorem applyConstraints_unlined (clauses : List Clause) :
    t.unlined.applyConstraints 1 (clauses.map Clause.unplaced) =
      (t.applyConstraints line clauses).unlined := by
  rw [applyConstraints, applyConstraints, List.filterMap_map]
  simp only [Function.comp_def, TableConstraint.ofClause?_unplaced]
  exact List.foldl_hom unlined (applyConstraint_unlined line)

theorem addAction_unlined (action : Clause) :
    t.unlined.addAction index 1 action.unplaced = (t.addAction index line action).unlined := by
  rw [addAction, addAction, Clause.after?_unplaced]
  cases action.after? [.add] with
  | none => rfl
  | some clause =>
      simp only [Option.map_some, TableConstraint.ofClause?_unplaced, Clause.skip_unplaced]
      cases TableConstraint.ofClause? clause with
      | some constraint => exact t.applyConstraint_unlined line constraint
      | none => exact t.addColumn_unlined index line _

theorem addActions_unlined (actions : List Clause) :
    (actions.map Clause.unplaced).foldl (addAction index 1) t.unlined =
      (actions.foldl (addAction index line) t).unlined := by
  rw [List.foldl_map]
  exact List.foldl_hom unlined fun t action => t.addAction_unlined index line action

end TableDraft

/-! ## One statement -/

/-- The lexeme at the start of the text with nothing in front of it. -/
def Lexeme.alone (l : Lexeme) : Lexeme :=
  { l.unplaced with spaced := false }

/-- A comment with nothing in front of it. -/
def Lexeme.ofComment (text : String) : Lexeme :=
  ⟨.comment, text, .start, false⟩

/-- The kind of a statement with all lexemes at the start of the text. -/
def StatementKind.unplaced : StatementKind → StatementKind
  | createTable rest => createTable rest.unplaced
  | alterTable rest => alterTable rest.unplaced
  | other => other

namespace Statement

/-- The lexemes of a statement without what does not count of their layout. -/
def unlaidLexemes : Clause → Clause
  | [] => []
  | l :: rest => l.alone :: Clause.unplaced rest

/-- The statement without what does not count of its layout. -/
def unlaid (s : Statement) : Statement :=
  ⟨unlaidLexemes s.lexemes, s.comments.map fun l => .ofComment l.text⟩

variable (s : Statement)

theorem after?_unlaidLexemes (k : Keyword) (ks : List Keyword) (c : Clause) :
    (unlaidLexemes c).after? (k :: ks) = (c.after? (k :: ks)).map Clause.unplaced := by
  cases c with
  | nil => rfl
  | cons l rest =>
      have hkeyword : l.alone.isKeyword k = l.isKeyword k := rfl
      rw [unlaidLexemes, Clause.after?, Clause.after?, hkeyword, Clause.after?_unplaced]
      split
      · rfl
      · rfl

theorem kind_unlaid : s.unlaid.kind = s.kind.unplaced := by
  rw [kind, kind, unlaid, after?_unlaidLexemes, after?_unlaidLexemes]
  cases s.lexemes.after? [.create] with
  | some rest =>
      simp only [Option.map_some, Clause.skip_unplaced, Clause.skipAll_unplaced,
        Clause.after?_unplaced]
      cases ((rest.skip [.orWord, .replace]).skipAll tableQualities).after? [.table] with
      | some rest => rfl
      | none => rfl
  | none =>
      cases s.lexemes.after? [.alter, .table] with
      | some rest => rfl
      | none => rfl

theorem line_unlaid : s.unlaid.line = 1 := by
  rw [line, unlaid]
  cases s.lexemes with
  | nil => rfl
  | cons l rest => rfl

theorem snippet_unlaid : s.unlaid.snippet = s.snippet := by
  have htext : (unlaidLexemes s.lexemes).text = s.lexemes.text := by
    cases s.lexemes with
    | nil => rfl
    | cons l rest =>
        rw [unlaidLexemes, Clause.text, Clause.text, Clause.textAfter_unplaced]
        rfl
  rw [snippet, snippet, unlaid, htext]

theorem position?_unlaid : s.unlaid.position? = s.position? := by
  rw [position?, position?, unlaid, ← List.map_reverse, List.findSome?_map]
  rfl

end Statement

namespace Draft

/-- The draft of a schema without lines. -/
def unlined (d : Draft) : Draft :=
  { d with
    pendingKeys := d.pendingKeys.map PendingKey.unlined
    skipped := d.skipped.map Skipped.unlined
    warnings := d.warnings.map Warning.unlined }

variable (d : Draft) (s : Statement)

@[simp] theorem entities_unlined : d.unlined.entities = d.entities := rfl

theorem warn_unlined (line : Nat) (cause : WarningCause) :
    d.unlined.warn 1 cause = (d.warn line cause).unlined := by
  simp [warn, unlined, Warning.unlined]

theorem skip_unlined (fault : TableFault) :
    d.unlined.skip s.unlaid fault = (d.skip s fault).unlined := by
  simp [skip, unlined, Skipped.unlined, s.snippet_unlaid, s.line_unlaid]

theorem absorb_unlined (t : TableDraft) : d.unlined.absorb t.unlined = (d.absorb t).unlined := by
  simp [absorb, unlined, TableDraft.unlined]

theorem addTable_unlined (name : String) (body : Clause) :
    d.unlined.addTable s.unlaid name body.unplaced = (d.addTable s name body).unlined := by
  have hknown : d.unlined.schema.entityNamed? name = d.schema.entityNamed? name := rfl
  by_cases htaken : (d.schema.entityNamed? name).isSome = true
  · simp only [addTable, hknown, if_pos htaken, s.line_unlaid]
    exact d.warn_unlined s.line _
  · have hnew : newTable d.entities.length s.unlaid name =
        (newTable d.entities.length s name).unlined := by
      rw [newTable, s.position?_unlaid]
      rfl
    simp only [addTable, hknown, if_neg htaken, s.line_unlaid, entities_unlined, hnew,
      Clause.splitTopLevel_unplaced, TableDraft.addColumns_unlined _ s.line,
      TableDraft.applyConstraints_unlined s.line, absorb_unlined, TableDraft.entity_unlined,
      skip_unlined]
    rw [apply_ite unlined]
    rfl

theorem alterTable_unlined (rest : Clause) :
    d.unlined.alterTable s.unlaid rest.unplaced = (d.alterTable s rest).unlined := by
  simp only [alterTable, Clause.skip_unplaced, Clause.tableName?_unplaced, s.line_unlaid]
  cases ((rest.skip [.only]).skip [.ifWord, .existsWord]).tableName? with
  | none => exact d.warn_unlined s.line _
  | some named =>
      obtain ⟨name, rest⟩ := named
      simp only [Option.map_some, Prod.map, id, entities_unlined]
      cases d.entities.findIdx? fun e => Text.sameName e.name name with
      | none => exact d.warn_unlined s.line _
      | some index =>
          simp only
          cases d.entities[index]? with
          | none => rfl
          | some entity =>
              have hactions : (rest.splitTopLevel.map Clause.unplaced).foldl
                  (TableDraft.addAction index 1) { entity } = TableDraft.unlined _ :=
                TableDraft.addActions_unlined index s.line { entity } rest.splitTopLevel
              simp only [Clause.splitTopLevel_unplaced, hactions, absorb_unlined]
              rfl

theorem add_unlined : d.unlined.add s.unlaid = (d.add s).unlined := by
  rw [add, add, s.kind_unlaid]
  cases s.kind with
  | createTable rest =>
      simp only [StatementKind.unplaced, createTable, tableHeader_unplaced]
      cases tableHeader rest with
      | error fault => exact d.skip_unlined s fault
      | ok header => exact d.addTable_unlined s header.1 header.2
  | alterTable rest => exact d.alterTable_unlined s rest
  | other => rfl

end Draft

/-! ## The foreign keys -/

/-- The relationships found so far, and warnings without lines. -/
def Resolution.unlined (r : Resolution) : Resolution :=
  { r with warnings := r.warnings.map Warning.unlined }

namespace Resolution

variable (schema : Schema) (r : Resolution)

theorem connect_unlined (parent child : Endpoint) :
    r.unlined.connect parent child = (r.connect parent child).unlined := by
  have hjoins : r.unlined.joins parent child = r.joins parent child := rfl
  rw [connect, connect, apply_ite unlined, hjoins]
  rfl

theorem add_unlined (key : PendingKey) :
    add schema r.unlined key.unlined = (add schema r key).unlined := by
  have hends : ∀ child, key.unlined.ends schema child = key.ends schema child := fun child => rfl
  have hchild : key.unlined.child = key.child := rfl
  rw [add, add, hchild]
  cases schema.entity? key.child with
  | none => rfl
  | some child =>
      simp only [hends]
      cases key.ends schema child with
      | error cause => simp [unlined, Warning.unlined, PendingKey.unlined]
      | ok ends => exact r.connect_unlined ends.1 ends.2

end Resolution

namespace Draft

theorem resolution_unlined (d : Draft) : d.unlined.resolution = d.resolution.unlined := by
  have hfold : ∀ r : Resolution,
      (d.pendingKeys.map PendingKey.unlined).foldl (Resolution.add d.schema) r.unlined =
        (d.pendingKeys.foldl (Resolution.add d.schema) r).unlined := by
    intro r
    rw [List.foldl_map]
    exact List.foldl_hom Resolution.unlined fun r key => r.add_unlined d.schema key
  exact hfold {}

theorem finish_unlined (d : Draft) : d.unlined.finish = unlinedOutcome d.finish := by
  have hskipped : d.unlined.skipped = d.skipped.map Skipped.unlined := rfl
  have hwarnings : d.unlined.warnings ++ d.resolution.unlined.warnings =
      (d.warnings ++ d.resolution.warnings).map Warning.unlined :=
    List.map_append.symm
  rw [finish, finish, entities_unlined, hskipped]
  cases d.entities with
  | nil =>
      cases d.skipped with
      | nil => rfl
      | cons first more => rfl
  | cons entity entities =>
      simp only [resolution_unlined, hwarnings]
      rfl

end Draft

/-! ## The script -/

theorem Draft.adds_unlined (d : Draft) (statements : List Statement) :
    (statements.map Statement.unlaid).foldl Draft.add d.unlined =
      (statements.foldl Draft.add d).unlined := by
  rw [List.foldl_map]
  exact List.foldl_hom Draft.unlined fun d s => d.add_unlined s

/-- An import of statements does not see their layout, but for the lines that it names. -/
theorem unlinedOutcome_importStatements (statements : List Statement) :
    unlinedOutcome (importStatements statements) =
      importStatements (statements.map Statement.unlaid) := by
  rw [importStatements, importStatements, ← Draft.finish_unlined, ← Draft.adds_unlined]
  rfl

section scriptTokens

variable {l : Lexeme} {rest : List Lexeme} (comments? : Option (List String))

theorem scriptTokens_semicolon (h : l.token = .semicolon) :
    scriptTokens comments? (l :: rest) = scriptTokens (some (comments?.getD [])) rest := by
  rw [scriptTokens, if_pos h]

theorem scriptTokens_comment (h : l.token = .comment) :
    scriptTokens comments? (l :: rest) = scriptTokens (comments?.map (· ++ [l.text])) rest := by
  rw [scriptTokens, if_neg (by simp [h]), if_pos h]

theorem scriptTokens_other (h : l.token ≠ .semicolon) (h' : l.token ≠ .comment) :
    scriptTokens comments? (l :: rest) = .of comments? l :: scriptTokens none rest := by
  rw [scriptTokens, if_neg h, if_neg h']

end scriptTokens

namespace Statement

theorem collect_other {l : Lexeme} (h : l.token ≠ .semicolon) (h' : l.token ≠ .comment)
    (lexemes comments rest : List Lexeme) :
    collect lexemes comments (l :: rest) = collect (l :: lexemes) comments rest := by
  rw [collect]
  split
  · contradiction
  · contradiction
  · rfl

/-- The lexemes of the tokens that go on a statement. -/
def furtherLexemes : List ScriptToken → Clause
  | .next spaced token text :: rest => ⟨token, text, .start, spaced⟩ :: furtherLexemes rest
  | _ => []

/-- The statements that tokens make up. -/
def ofTokens : List ScriptToken → List Statement
  | [] => []
  | .first comments token text :: rest =>
    ⟨⟨token, text, .start, false⟩ :: furtherLexemes rest, comments.map .ofComment⟩ :: ofTokens rest
  | .next _ _ _ :: rest => ofTokens rest

/-- Before a statement no token goes on the one before. -/
theorem furtherLexemes_scriptTokens_some (comments : List String) (ls : List Lexeme) :
    furtherLexemes (scriptTokens (some comments) ls) = [] := by
  induction ls generalizing comments with
  | nil => rfl
  | cons l ls ih =>
      by_cases hsemicolon : l.token = .semicolon
      · rw [scriptTokens_semicolon _ hsemicolon]
        exact ih _
      · by_cases hcomment : l.token = .comment
        · rw [scriptTokens_comment _ hcomment]
          exact ih _
        · rw [scriptTokens_other _ hsemicolon hcomment]
          rfl

/-- What `collect` gives before a statement and within one. The induction needs both at once: a
first token leads from the one to the other, and a semicolon back. -/
theorem map_unlaid_collect (ls : List Lexeme) :
    (∀ comments, (collect [] comments ls).map unlaid =
      ofTokens (scriptTokens (some (comments.reverse.map Lexeme.text)) ls)) ∧
    ∀ l more comments, (collect (more.reverse ++ [l]) comments ls).map unlaid =
      ⟨l.alone :: (Clause.unplaced more ++ furtherLexemes (scriptTokens none ls)),
        comments.reverse.map fun c => .ofComment c.text⟩ :: ofTokens (scriptTokens none ls) := by
  induction ls with
  | nil =>
      refine ⟨fun comments => rfl, fun l more comments => ?_⟩
      simp [collect, unlaid, unlaidLexemes, scriptTokens, furtherLexemes, ofTokens]
  | cons m ls ih =>
      obtain ⟨hbefore, hwithin⟩ := ih
      by_cases hsemicolon : m.token = .semicolon
      · refine ⟨fun comments => ?_, fun l more comments => ?_⟩
        · rw [scriptTokens_semicolon _ hsemicolon, Option.getD_some, ← hbefore, collect, hsemicolon]
          rfl
        · rw [scriptTokens_semicolon _ hsemicolon, furtherLexemes_scriptTokens_some]
          have hcollect : collect (more.reverse ++ [l]) comments (m :: ls) =
              ⟨l :: more, comments.reverse⟩ :: collect [] [] ls := by
            simp [collect, hsemicolon]
          rw [hcollect, List.map_cons, hbefore, List.append_nil]
          rfl
      · by_cases hcomment : m.token = .comment
        · refine ⟨fun comments => ?_, fun l more comments => ?_⟩
          · have hnext := hbefore (m :: comments)
            rw [List.reverse_cons, List.map_append] at hnext
            rw [scriptTokens_comment _ hcomment, Option.map_some, collect, hcomment]
            exact hnext
          · rw [scriptTokens_comment _ hcomment, Option.map_none, ← hwithin, collect, hcomment]
            simp
        · refine ⟨fun comments => ?_, fun l more comments => ?_⟩
          · rw [scriptTokens_other _ hsemicolon hcomment, collect_other hsemicolon hcomment]
            have hnext := hwithin m [] comments
            rw [List.reverse_nil, List.nil_append] at hnext
            rw [hnext, ScriptToken.of, ofTokens, List.map_map]
            rfl
          · have hnext := hwithin l (more ++ [m]) comments
            rw [List.reverse_append, List.reverse_singleton, List.singleton_append,
              List.cons_append] at hnext
            rw [scriptTokens_other _ hsemicolon hcomment, collect_other hsemicolon hcomment, hnext,
              ScriptToken.of, ofTokens, furtherLexemes, Clause.unplaced, List.map_append,
              List.append_assoc]
            rfl

theorem map_unlaid_ofLexemes (ls : List Lexeme) :
    (ofLexemes ls).map unlaid = ofTokens (scriptTokens (some []) ls) :=
  (map_unlaid_collect ls).1 []

end Statement

/-- Two streams of lexemes with the same tokens in the same statements, the same gaps within them and
the same comments in front of them give the same schema, the same skipped statements and the same
warnings, up to the lines that these name, or fail alike. -/
theorem importStatements_layout {ls ls' : List Lexeme}
    (h : scriptTokens (some []) ls = scriptTokens (some []) ls') :
    unlinedOutcome (importStatements (Statement.ofLexemes ls)) =
        unlinedOutcome (importStatements (Statement.ofLexemes ls')) ∧
      ∀ sql sql', Lexer.lexemes sql = .ok ls → Lexer.lexemes sql' = .ok ls' →
        unlinedOutcome (importScript sql) = unlinedOutcome (importScript sql') := by
  have hsame : unlinedOutcome (importStatements (Statement.ofLexemes ls)) =
      unlinedOutcome (importStatements (Statement.ofLexemes ls')) := by
    rw [unlinedOutcome_importStatements, unlinedOutcome_importStatements,
      Statement.map_unlaid_ofLexemes, Statement.map_unlaid_ofLexemes, h]
  refine ⟨hsame, fun sql sql' hsql hsql' => ?_⟩
  rw [importScript, importScript, hsql, hsql']
  exact hsame

/-- A table with a noted position, and a statement that is left out. -/
def narrowScript : String :=
  "-- Position: (4, 8)\nCREATE TABLE t (a INT DEFAULT 'x');CREATE TABLE"

/-- The same with other gaps and with comments inside the statements. -/
def wideScript : String :=
  "\n-- Position: (4, 8)\n\nCREATE\tTABLE t\n(a   INT -- b\n DEFAULT 'x');\nCREATE /* u */ TABLE --"

theorem importStatements_layout_wide :
    ∃ ls ls', Lexer.lexemes narrowScript = .ok ls ∧ Lexer.lexemes wideScript = .ok ls' ∧
      ls.length = 13 ∧ ls'.length = 16 ∧
      scriptTokens (some []) ls = scriptTokens (some []) ls' ∧
      unlinedOutcome (importScript narrowScript) = unlinedOutcome (importScript wideScript) := by
  have htokens : (Lexer.lexemes narrowScript).map (scriptTokens (some [])) =
      (Lexer.lexemes wideScript).map (scriptTokens (some [])) := by
    decide +kernel
  have hlengths : (Lexer.lexemes narrowScript).map List.length = .ok 13 ∧
      (Lexer.lexemes wideScript).map List.length = .ok 16 := by
    decide +kernel
  cases hnarrow : Lexer.lexemes narrowScript with
  | error e => simp [hnarrow, Except.map] at hlengths
  | ok ls =>
      cases hwide : Lexer.lexemes wideScript with
      | error e => simp [hwide, Except.map] at hlengths
      | ok ls' =>
          rw [hnarrow, hwide] at htokens hlengths
          have htokens := Except.ok.inj htokens
          exact ⟨ls, ls', rfl, rfl, Except.ok.inj hlengths.1, Except.ok.inj hlengths.2, htokens,
            (importStatements_layout htokens).2 _ _ hnarrow hwide⟩

end Ddl

end EntityRelation
