import EntityRelation.Ddl.Import
import EntityRelation.Proofs.Ddl.ColumnReading
import EntityRelation.Proofs.Ddl.PositionReading

/-!
# Statements read back

Every piece of a script ends with a semicolon, so its lexemes are one statement wherever the piece
stands. The statements that drop tables or create indexes are passed over; the statement that
creates a table gives its name, its position, and the clauses of its columns and constraints.
-/

namespace EntityRelation

namespace Ddl

open Lexer

/-! ## From lexemes to statements -/

/-- The lexemes are those of one statement with a property, whatever follows them. -/
def Yields (P : Statement → Prop) (ls : Clause) : Prop :=
  ∃ s, P s ∧ ∀ rest, Statement.collect [] [] (ls ++ rest) = s :: Statement.collect [] [] rest

theorem collect_append {a : Clause} (h : ∀ l ∈ a, l.token ≠ .comment ∧ l.token ≠ .semicolon)
    (before comments rest : List Lexeme) :
    Statement.collect before comments (a ++ rest) =
      Statement.collect (a.reverse ++ before) comments rest := by
  induction a generalizing before with
  | nil => rfl
  | cons l a ih =>
      have hl := h l List.mem_cons_self
      have hstep : Statement.collect before comments (l :: (a ++ rest)) =
          Statement.collect (l :: before) comments (a ++ rest) := by
        rw [Statement.collect]
        split
        · next htoken => exact absurd htoken hl.2
        · next htoken => exact absurd htoken hl.1
        · rfl
      rw [List.cons_append, hstep, ih fun m hm => h m (List.mem_cons_of_mem _ hm)]
      simp

/-- A semicolon ends the statement. -/
theorem collect_statement {a : Clause} {l : Lexeme}
    (h : ∀ l ∈ a, l.token ≠ .comment ∧ l.token ≠ .semicolon) (hne : a ≠ [])
    (hl : l.token = .semicolon) (comments rest : List Lexeme) :
    Statement.collect [] comments (a ++ [l] ++ rest) =
      ⟨a, comments.reverse⟩ :: Statement.collect [] [] rest := by
  have hempty : a.reverse.isEmpty = false := by simpa using hne
  rw [List.append_assoc, collect_append h, List.append_nil, List.singleton_append,
    Statement.collect]
  simp [hl, hempty]

theorem yields_statement {P : Statement → Prop} {a : Clause} {l : Lexeme}
    (h : ∀ l ∈ a, l.token ≠ .comment ∧ l.token ≠ .semicolon) (hne : a ≠ [])
    (hl : l.token = .semicolon) (hP : P ⟨a, []⟩) : Yields P (a ++ [l]) :=
  ⟨⟨a, []⟩, hP, collect_statement h hne hl []⟩

/-- A comment in front of a statement is kept with it. -/
theorem yields_commented {P : Statement → Prop} {a : Clause} {c l : Lexeme}
    (h : ∀ l ∈ a, l.token ≠ .comment ∧ l.token ≠ .semicolon) (hne : a ≠ [])
    (hl : l.token = .semicolon) (hc : c.token = .comment) (hP : P ⟨a, [c]⟩) :
    Yields P ([c] ++ (a ++ [l])) := by
  refine ⟨⟨a, [c]⟩, hP, fun rest => ?_⟩
  have hstep : Statement.collect [] [] (c :: (a ++ [l] ++ rest)) =
      Statement.collect [] [c] (a ++ [l] ++ rest) := by
    rw [Statement.collect]
    simp [hc]
  rw [List.append_assoc, List.singleton_append, hstep, collect_statement h hne hl]
  rfl

/-- A piece of a script that a semicolon ends. -/
theorem reads_ended {cs : List Char} {P : Clause → Prop} (h : Reads Stops cs P) :
    Reads Anything (cs ++ [';', '\n']) fun ls => ∃ a l, ls = a ++ [l] ∧ P a ∧
      l.token = .semicolon := by
  have hsemicolon := Reads.semicolon.weaken fun tail (_ : Stops tail) => trivial
  refine (h.append (hsemicolon.before_gap (Or.inr rfl)) fun tail _ =>
    stops_cons (by decide) _).mono ?_
  rintro ls ⟨a, b, rfl, ha, hb⟩
  obtain ⟨l, rfl, hl⟩ := List.map_eq_singleton_iff.1 hb
  exact ⟨a, l, rfl, ha, hl⟩

/-- The words that a statement starts with. -/
theorem reads_leadingWords (word : String) (words : List String) (h : Dialect.isPlain word = true)
    (hwords : ∀ word ∈ words, Dialect.isPlain word = true) :
    Reads Stops (word.toList ++ words.flatMap fun word => ' ' :: word.toList)
      (Tokens ((word :: words).map .word)) := by
  have hfirst : Reads Stops word.toList (Tokens [.word word]) := by
    refine (Reads.plainWord h).mono ?_
    rintro ls ⟨l, rfl, hl, -⟩
    rw [Tokens, List.map_singleton, hl]
  refine hfirst.tokens_append (Reads.words words hwords) fun tail htail => ?_
  cases words with
  | nil => exact htail
  | cons word words => exact stops_cons (by decide) _

/-! ## Statements that are passed over -/

theorem kind_other {a : Clause} {l : Lexeme} {rest : Clause}
    (hcreate : l.keyword? ≠ some .create) (halter : l.keyword? ≠ some .alter)
    (h : a = l :: rest) (comments : List Lexeme) : (Statement.mk a comments).kind = .other := by
  rw [Statement.kind, h]
  simp only [Clause.after?_cons_ne hcreate, Clause.after?_cons_ne halter]

theorem skip_qualities {l : Lexeme} (h : ∀ k ∈ .orWord :: tableQualities, l.keyword? ≠ some k)
    (rest : Clause) :
    (Clause.skip [.orWord, .replace] (l :: rest)).skipAll tableQualities = l :: rest := by
  have hqualities : l.isAny tableQualities = false := by
    rw [Lexeme.isAny, List.any_eq_false]
    intro k hk
    rw [Lexeme.isKeyword, beq_iff_eq]
    exact h k (List.mem_cons_of_mem _ hk)
  rw [Clause.skip, Clause.after?_cons_ne (h _ List.mem_cons_self), Option.getD_none,
    Clause.skipAll, List.dropWhile_cons_of_neg (by simp [hqualities])]

/-- The statement that drops a table. -/
theorem reads_renderDrop (d : Dialect) (table : String) :
    Reads Anything (Script.renderDrop d table).toList (Yields (·.kind = .other)) := by
  have hname := (reads_quote d table).after_gap (c := ' ') (Or.inl rfl)
  have hfront := (reads_leadingWords "DROP" ["TABLE", "IF", "EXISTS"] (by decide) (by decide)).append
    hname fun tail _ => stops_cons (by decide) _
  have htext : (Script.renderDrop d table).toList =
      (("DROP".toList ++ ["TABLE", "IF", "EXISTS"].flatMap fun word => ' ' :: word.toList) ++
        ' ' :: (d.quote table).toList) ++ [';', '\n'] := by
    have hwords : "DROP TABLE IF EXISTS ".toList =
        ("DROP".toList ++ ["TABLE", "IF", "EXISTS"].flatMap fun word => ' ' :: word.toList) ++
          [' '] := by decide
    have hend : ";\n".toList = [';', '\n'] := by decide
    unfold Script.renderDrop
    simp only [String.toList_append, hwords, hend, List.append_assoc, List.cons_append,
      List.nil_append]
  rw [htext]
  refine (reads_ended hfront).mono ?_
  rintro ls ⟨_, l, rfl, ⟨words, name, rfl, hwords, hname⟩, hl⟩
  have hcontained := (isContained_of_words hwords).append (isContained_of_nameToken hname).1
  obtain ⟨drop, words, rfl, hdrop, -⟩ := List.map_eq_cons_iff.1 hwords
  have hkeyword : drop.keyword? = none := (Clause.keyword?_of_word hdrop).trans (by decide)
  exact yields_statement hcontained.tokens (List.cons_ne_nil _ _) hl
    (kind_other (by simp [hkeyword]) (by simp [hkeyword]) rfl [])

/-- The statement that creates an index. -/
theorem reads_renderIndex (d : Dialect) (i : IndexDefinition) :
    Reads Anything (Script.renderIndex d i).toList (Yields (·.kind = .other)) := by
  have hname := (reads_quote d i.name).after_gap (c := ' ') (Or.inl rfl)
  have hfront := (reads_leadingWords "CREATE" ["INDEX"] (by decide) (by decide)).append hname
    fun tail _ => stops_cons (by decide) _
  have htable := (reads_quote d i.table).after_gap (c := ' ') (Or.inl rfl)
  have hon := (Reads.words ["ON"] (by decide)).append htable fun tail _ => stops_cons (by decide) _
  have htarget := hon.append (reads_nameList d (List.cons_ne_nil i.column [])) fun tail _ =>
    stops_nameList d _ tail
  have hclause := (hfront.append htarget fun tail _ => stops_cons (by decide) _).weaken
    fun tail (_ : Stops tail) => trivial
  have htext : (Script.renderIndex d i).toList =
      ((("CREATE".toList ++ ["INDEX"].flatMap fun word => ' ' :: word.toList) ++
        ' ' :: (d.quote i.name).toList) ++
        (((["ON"].flatMap fun word => ' ' :: word.toList) ++ ' ' :: (d.quote i.table).toList) ++
          (Script.nameList d [i.column]).toList)) ++ [';', '\n'] := by
    have hwords : "CREATE INDEX ".toList =
        ("CREATE".toList ++ ["INDEX"].flatMap fun word => ' ' :: word.toList) ++ [' '] := by decide
    have hon : " ON ".toList = (["ON"].flatMap fun word => ' ' :: word.toList) ++ [' '] := by decide
    have hend : ";\n".toList = [';', '\n'] := by decide
    unfold Script.renderIndex
    simp only [String.toList_append, hwords, hon, hend, List.append_assoc, List.cons_append,
      List.nil_append]
  rw [htext]
  refine (reads_ended hclause).mono ?_
  rintro ls ⟨_, l, rfl, ⟨_, _, rfl, ⟨words, name, rfl, hwords, hname⟩, _, columns, rfl,
    ⟨on, table, rfl, hon, htable⟩, hcolumns⟩, hl⟩
  have hcontained := ((isContained_of_words hwords).append (isContained_of_nameToken hname).1).append
    (((isContained_of_words hon).append (isContained_of_nameToken htable).1).append
      hcolumns.isContained)
  obtain ⟨create, index, rfl, hcreate, hindex⟩ := eq_pair_of_tokens hwords
  have hcreate : create.keyword? = some .create :=
    (Clause.keyword?_of_word hcreate).trans (by decide)
  have hindex : index.keyword? = some .index := (Clause.keyword?_of_word hindex).trans (by decide)
  refine yields_statement hcontained.tokens (List.cons_ne_nil _ _) hl ?_
  have hskip := skip_qualities (l := index) fun k hk hkeyword => by
    rw [hindex] at hkeyword
    rw [← Option.some.inj hkeyword] at hk
    exact absurd hk (by decide)
  rw [Statement.kind]
  simp only [List.cons_append, List.nil_append, Clause.after?_cons hcreate, Clause.after?, hskip,
    Clause.after?_cons_ne (show index.keyword? ≠ some .table by simp [hindex])]

/-! ## Statements that create a table -/

/-- The constraints that the clauses of a table state besides its columns. -/
def constraintsOf (e : Entity) (keys : List ForeignKeyDefinition) : List TableConstraint :=
  (if 1 < e.primaryKeys.length then [.primaryKey (e.primaryKeys.map Field.name)] else []) ++
    keys.map fun k => .foreignKey [k.column] (some k.table) [k.referenced]

/-- The clauses define the columns of a table and state its constraints. -/
def IsBody (e : Entity) (keys : List ForeignKeyDefinition) (parts : List Clause) : Prop :=
  ∃ columns constraints, parts = columns ++ constraints ∧
    List.Forall₂ (fun f => Defines f (f.isPrimaryKey && e.primaryKeys.length == 1)) e.fields columns ∧
    List.Forall₂ States (constraintsOf e keys) constraints

/-- The lexemes of a statement that creates a table with the columns and constraints of an
entity. -/
structure IsTableClause (e : Entity) (keys : List ForeignKeyDefinition) (a : Clause) : Prop where
  tokens : ∀ l ∈ a, l.token ≠ .comment ∧ l.token ≠ .semicolon
  ne_nil : a ≠ []
  body : ∃ rest body, (∀ comments, (Statement.mk a comments).kind = .createTable rest) ∧
    tableHeader rest = .ok (e.name, body) ∧ IsBody e keys body.splitTopLevel

/-- The statement creates a table with the columns and constraints of an entity. -/
structure IsTable (position : Option Position) (e : Entity) (keys : List ForeignKeyDefinition)
    (s : Statement) : Prop where
  position?_eq : s.position? = position
  body : ∃ rest body, s.kind = .createTable rest ∧ tableHeader rest = .ok (e.name, body) ∧
    IsBody e keys body.splitTopLevel

theorem IsBody.isContained {e : Entity} {keys : List ForeignKeyDefinition} {parts : List Clause}
    (h : IsBody e keys parts) : ∀ p ∈ parts, p.IsContained ∧ p ≠ [] := by
  obtain ⟨columns, constraints, rfl, hcolumns, hconstraints⟩ := h
  intro p hp
  rcases List.mem_append.1 hp with hmem | hmem
  · obtain ⟨f, -, hf⟩ := exists_of_forall₂ hcolumns hmem
    exact ⟨hf.contained, hf.ne_nil⟩
  · obtain ⟨c, -, hc⟩ := exists_of_forall₂ hconstraints hmem
    exact ⟨hc.contained, hc.ne_nil⟩

/-- The clauses of a table as they are written, each with what it is read as. -/
def pieces (d : Dialect) (e : Entity) (keys : List ForeignKeyDefinition) :
    List (String × (Clause → Prop)) :=
  e.fields.map (fun f => (Script.renderColumn d (ColumnDefinition.ofField d e.primaryKeys.length f),
    Defines f (f.isPrimaryKey && e.primaryKeys.length == 1))) ++
  ((if 1 < e.primaryKeys.length then
    [(Script.renderCompositeKey d (e.primaryKeys.map Field.name),
      States (.primaryKey (e.primaryKeys.map Field.name)))] else []) ++
  keys.map fun k => (Script.renderForeignKey d k,
    States (.foreignKey [k.column] (some k.table) [k.referenced])))

theorem isBody_of_pieces {d : Dialect} {e : Entity} {keys : List ForeignKeyDefinition}
    {parts : List Clause} (h : List.Forall₂ (fun piece c => piece.2 c) (pieces d e keys) parts) :
    IsBody e keys parts := by
  rw [pieces] at h
  obtain ⟨columns, rest, rfl, hcolumns, hrest⟩ := exists_append_of_forall₂ h
  obtain ⟨composite, foreign, rfl, hcomposite, hforeign⟩ := exists_append_of_forall₂ hrest
  have hforeign := List.forall₂_map_left_iff.1 hforeign
  refine ⟨columns, composite ++ foreign, rfl, List.forall₂_map_left_iff.1 hcolumns, ?_⟩
  refine List.rel_append ?_ (List.forall₂_map_left_iff.2 hforeign)
  by_cases hkeys : 1 < e.primaryKeys.length
  · rw [if_pos hkeys] at hcomposite ⊢
    cases hcomposite with
    | cons hfirst hnil =>
        cases hnil
        exact List.Forall₂.cons hfirst List.Forall₂.nil
  · rw [if_neg hkeys] at hcomposite ⊢
    cases hcomposite
    exact List.Forall₂.nil

theorem map_fst_pieces (s : Schema) (o : ScriptOptions) (e : Entity) :
    (pieces o.dialect e (TableDefinition.ofEntity s o e).foreignKeys).map Prod.fst =
      Script.clauses o.dialect (TableDefinition.ofEntity s o e) := by
  have hcomposite : (if (TableDefinition.ofEntity s o e).compositeKey.isEmpty then []
      else [Script.renderCompositeKey o.dialect (TableDefinition.ofEntity s o e).compositeKey]) =
      if 1 < e.primaryKeys.length then
        [Script.renderCompositeKey o.dialect (e.primaryKeys.map Field.name)] else [] := by
    rw [TableDefinition.ofEntity]
    by_cases hkeys : 1 < e.primaryKeys.length
    · have hne : (e.primaryKeys.map Field.name).isEmpty = false := by
        rw [List.isEmpty_eq_false_iff]
        rintro hnil
        rw [List.map_eq_nil_iff.1 hnil] at hkeys
        exact absurd hkeys (by decide)
      simp [hkeys, hne]
    · simp [hkeys]
  rw [pieces, Script.clauses, hcomposite, List.map_append, List.map_append, List.append_assoc,
    apply_ite (List.map Prod.fst), List.map_map, List.map_map]
  congr 1
  rw [TableDefinition.ofEntity, List.map_map]
  rfl

end Ddl

/-- What a script can say about an entity. -/
structure Entity.IsScriptable (e : Entity) : Prop where
  fields_ne_nil : e.fields ≠ []
  fields : ∀ f ∈ e.fields, f.IsScriptable
  x : e.position.x.isFinite
  y : e.position.y.isFinite

namespace Ddl

open Lexer

theorem pieces_read {d : Dialect} {e : Entity} {keys : List ForeignKeyDefinition}
    (h : ∀ f ∈ e.fields, f.IsScriptable) :
    ∀ piece ∈ pieces d e keys, Reads Stops piece.1.toList piece.2 := by
  intro piece hpiece
  rw [pieces, List.mem_append, List.mem_append] at hpiece
  rcases hpiece with hcolumn | hcomposite | hforeign
  · obtain ⟨f, hf, rfl⟩ := List.mem_map.1 hcolumn
    exact reads_renderColumn d _ (h f hf)
  · by_cases hkeys : 1 < e.primaryKeys.length
    · rw [if_pos hkeys, List.mem_singleton] at hcomposite
      rw [hcomposite]
      refine (reads_renderCompositeKey d ?_).weaken fun _ _ => trivial
      rintro hnil
      rw [List.map_eq_nil_iff.1 hnil] at hkeys
      exact absurd hkeys (by decide)
    · rw [if_neg hkeys] at hcomposite
      cases hcomposite
  · obtain ⟨k, -, rfl⟩ := List.mem_map.1 hforeign
    exact reads_renderForeignKey d k

/-- The clauses of a table, with commas between them. -/
theorem reads_clauses (s : Schema) (o : ScriptOptions) {e : Entity} (h : e.IsScriptable) :
    Reads Stops (String.intercalate ",\n"
        (Script.clauses o.dialect (TableDefinition.ofEntity s o e))).toList fun ls =>
      ls.IsInside ∧ ls ≠ [] ∧
        IsBody e (TableDefinition.ofEntity s o e).foreignKeys ls.splitTopLevel := by
  have hne : pieces o.dialect e (TableDefinition.ofEntity s o e).foreignKeys ≠ [] := by
    intro hnil
    have hcolumns := (List.append_eq_nil_iff.1 hnil).1
    exact h.fields_ne_nil (List.map_eq_nil_iff.1 hcolumns)
  have hread := reads_intercalate (Or.inr rfl) hne (pieces_read h.fields)
  rw [map_fst_pieces] at hread
  refine hread.mono ?_
  rintro ls ⟨parts, hjoined, hparts⟩
  have hbody := isBody_of_pieces hparts
  refine ⟨hjoined.isInside fun p hp => (hbody.isContained p hp).1,
    hjoined.ne_nil fun p hp => (hbody.isContained p hp).2, ?_⟩
  rw [hjoined.splitTopLevel_eq hbody.isContained]
  exact hbody

theorem tableHeader_eq {name : String} {l left right : Lexeme} {body : Clause}
    (hl : l.token = nameToken name) (hleft : left.token = .leftParen)
    (hright : right.token = .rightParen) (hbody : body.IsInside) (hne : body ≠ []) :
    tableHeader (l :: (left :: body ++ [right])) = .ok (name, body) := by
  have hname : l.name? = some name := (congrArg Token.name? hl).trans (name?_nameToken name)
  have hif : l.keyword? ≠ some .ifWord := by
    intro hk
    rw [Lexeme.keyword?, hl] at hk
    exact keyword?_nameToken hk (by decide)
  have hskip : Clause.skip [.ifWord, .notWord, .existsWord] (l :: (left :: body ++ [right])) =
      l :: (left :: body ++ [right]) := by
    rw [Clause.skip, Clause.after?_cons_ne hif, Option.getD_none]
  have hqualified : Clause.qualifiedFrom name (left :: body ++ [right]) =
      (name, left :: body ++ [right]) := by
    obtain ⟨m, body, rfl⟩ := List.exists_cons_of_ne_nil hne
    simp [Clause.qualifiedFrom, hleft]
  have hclose := Clause.closeGroup?_of_isBalanced hbody.balanced hright []
  obtain ⟨m, more, rfl⟩ := List.exists_cons_of_ne_nil hne
  rw [tableHeader, hskip, Clause.tableName?, hname, Option.map_some, hqualified]
  simp only [List.cons_append, hleft, if_true] at hclose ⊢
  rw [hclose]

/-- The text that creates a table, up to its semicolon. -/
def createText (s : Schema) (o : ScriptOptions) (e : Entity) : List Char :=
  ("CREATE".toList ++ ["TABLE"].flatMap fun word => ' ' :: word.toList) ++
    ' ' :: (o.dialect.quote e.name).toList ++
    ((' ' :: '(' :: '\n' :: (String.intercalate ",\n"
      (Script.clauses o.dialect (TableDefinition.ofEntity s o e))).toList) ++ ['\n', ')'])

theorem reads_createText (s : Schema) (o : ScriptOptions) {e : Entity} (h : e.IsScriptable) :
    Reads Stops (createText s o e)
      (IsTableClause e (TableDefinition.ofEntity s o e).foreignKeys) := by
  have hname := (reads_quote o.dialect e.name).after_gap (c := ' ') (Or.inl rfl)
  have hfront := (reads_leadingWords "CREATE" ["TABLE"] (by decide) (by decide)).append hname
    fun tail _ => stops_cons (by decide) _
  have hclauses := (reads_clauses s o h).after_gap (c := '\n') (Or.inr rfl)
  have hopen := (Reads.leftParen.after_gap (c := ' ') (Or.inl rfl)).append hclauses
    fun _ _ => trivial
  have hgroup := hopen.append (Reads.rightParen.after_gap (c := '\n') (Or.inr rfl))
    fun tail _ => stops_cons (by decide) _
  have hclause := (hfront.append hgroup fun tail _ => stops_cons (by decide) _).weaken
    fun tail (_ : Stops tail) => trivial
  refine hclause.mono ?_
  rintro ls ⟨_, _, rfl, ⟨words, name, rfl, hwords, hname⟩, _, right, rfl,
    ⟨left, body, rfl, hleft, hinside, hne, hbody⟩, hright⟩
  have hwordsContained := isContained_of_words hwords
  have hnameContained := (isContained_of_nameToken hname).1
  obtain ⟨create, table, rfl, hcreate, htable⟩ := eq_pair_of_tokens hwords
  obtain ⟨n, rfl, hn⟩ := List.map_eq_singleton_iff.1 hname
  obtain ⟨l, rfl, hl⟩ := List.map_eq_singleton_iff.1 hleft
  obtain ⟨r, rfl, hr⟩ := List.map_eq_singleton_iff.1 hright
  have hcreate : create.keyword? = some .create :=
    (Clause.keyword?_of_word hcreate).trans (by decide)
  have htable : table.keyword? = some .table := (Clause.keyword?_of_word htable).trans (by decide)
  have hskip := skip_qualities (l := table) fun k hk hkeyword => by
    rw [htable] at hkeyword
    rw [← Option.some.inj hkeyword] at hk
    exact absurd hk (by decide)
  refine ⟨?_, List.cons_ne_nil _ _, n :: (l :: body ++ [r]), body, fun comments => ?_,
    tableHeader_eq hn hl hr hinside hne, hbody⟩
  · exact ((hwordsContained.append hnameContained).append (hinside.group hl hr)).tokens
  · rw [Statement.kind]
    simp only [List.cons_append, List.nil_append, Clause.after?_cons hcreate, Clause.after?, hskip,
      Clause.after?_cons htable]

theorem toList_renderTable (s : Schema) (o : ScriptOptions) (e : Entity) :
    (Script.renderTable o.dialect (TableDefinition.ofEntity s o e)).toList =
      (if o.includePositions then (Script.renderPosition e.position).toList else []) ++
        ((createText s o e ++ [';', '\n']) ++ ['\n']) := by
  have hposition : ((TableDefinition.ofEntity s o e).position.map Script.renderPosition).getD "" =
      if o.includePositions then Script.renderPosition e.position else "" := by
    rw [TableDefinition.ofEntity]
    cases o.includePositions with
    | false | true => rfl
  have hcreate : "CREATE TABLE ".toList =
      ("CREATE".toList ++ ["TABLE"].flatMap fun word => ' ' :: word.toList) ++ [' '] := by decide
  have hopen : " (\n".toList = [' ', '(', '\n'] := by decide
  have hend : "\n);\n\n".toList = ['\n', ')', ';', '\n', '\n'] := by decide
  have hname : (TableDefinition.ofEntity s o e).name = e.name := rfl
  unfold Script.renderTable createText
  rw [hposition, hname]
  simp only [String.toList_append, hcreate, hopen, hend, apply_ite String.toList, List.append_assoc,
    List.cons_append, List.nil_append]
  rfl

/-- The statement that creates a table is read back. -/
theorem reads_renderTable (s : Schema) (o : ScriptOptions) {e : Entity} (h : e.IsScriptable) :
    Reads Anything (Script.renderTable o.dialect (TableDefinition.ofEntity s o e)).toList
      (Yields (IsTable (if o.includePositions then some e.position else none) e
        (TableDefinition.ofEntity s o e).foreignKeys)) := by
  have hstatement := (reads_ended (reads_createText s o h)).append (Reads.gap (c := '\n')
    (Or.inr rfl)) fun _ _ => trivial
  rw [toList_renderTable]
  cases o.includePositions with
  | false =>
      simp only [Bool.false_eq_true, if_false, List.nil_append]
      refine hstatement.mono ?_
      rintro ls ⟨_, _, rfl, ⟨a, l, rfl, ha, hl⟩, rfl⟩
      obtain ⟨rest, body, hkind, hheader, hbody⟩ := ha.body
      rw [List.append_nil]
      exact yields_statement ha.tokens ha.ne_nil hl ⟨rfl, rest, body, hkind [], hheader, hbody⟩
  | true =>
      simp only [if_true]
      refine ((reads_renderPosition h.x h.y).append hstatement fun _ _ => trivial).mono ?_
      rintro ls ⟨_, _, rfl, ⟨c, rfl, hc, htext⟩, _, _, rfl, ⟨a, l, rfl, ha, hl⟩, rfl⟩
      obtain ⟨rest, body, hkind, hheader, hbody⟩ := ha.body
      have hposition : (Statement.mk a [c]).position? = some e.position := by
        have hnoted := notedPosition?_renderPosition h.x h.y
        simp [Statement.position?, htext, hnoted]
      rw [List.append_nil]
      exact yields_commented ha.tokens ha.ne_nil hl hc
        ⟨hposition, rest, body, hkind [c], hheader, hbody⟩

end Ddl

end EntityRelation
