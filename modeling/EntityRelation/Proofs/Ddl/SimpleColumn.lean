import EntityRelation.Proofs.Ddl.ColumnReading

/-!
# Columns with a simple type

A name and a type after it are read as a column of this name and this type, however the name is
spelled and whatever stands between the parentheses of the type (`ofClause?_quote_type`). The words
`FULLTEXT` and `SPATIAL` are not reserved, though, so a column of this name is taken for an index
as soon as the group after its type starts with a word.
-/

namespace EntityRelation

namespace Ddl

open Lexer Clause

/-- A word that can be the name of a type. -/
structure IsTypeWord (w : Lexeme) : Prop where
  word : ∃ value, w.token = .word value
  other : w.isAny (modifierWords ++ [.usingWord, .forWord]) = false

/-- The lexemes of a type: a word, or a word with a group that has the lexemes `args` inside. -/
inductive IsSimpleType : Clause → Clause → Prop where
  | word {w : Lexeme} (hw : IsTypeWord w) : IsSimpleType [] [w]
  | group {w left right : Lexeme} {args : Clause} (hw : IsTypeWord w)
      (hleft : left.token = .leftParen) (hright : right.token = .rightParen)
      (balanced : args.isBalanced 0 = true) (comments : ∀ l ∈ args, l.token ≠ .comment) :
      IsSimpleType args (w :: left :: args ++ [right])

/-- A column of the name is taken for an index when `args` stand in the group after its type. -/
def TakenForIndex (name : String) (args : Clause) : Prop :=
  ((nameToken name).keyword? = some .fulltext ∨ (nameToken name).keyword? = some .spatial) ∧
    ∃ first ∈ args.head?, first.token.isWord = true

variable {w l : Lexeme} {args ts : Clause} {name : String}

namespace IsTypeWord

theorem isKeyword_eq (h : IsTypeWord w) {k : Keyword}
    (hk : k ∈ modifierWords ++ [.usingWord, .forWord]) : w.isKeyword k = false :=
  List.any_eq_false.1 h.other k hk |> Bool.eq_false_iff.2

theorem paren (h : IsTypeWord w) : w.token ≠ .leftParen ∧ w.token ≠ .rightParen := by
  obtain ⟨value, hvalue⟩ := h.word
  rw [hvalue]
  exact ⟨nofun, nofun⟩

theorem isName (h : IsTypeWord w) : w.isName = true := by
  obtain ⟨value, hvalue⟩ := h.word
  rw [Lexeme.isName, Lexeme.name?, hvalue]
  rfl

theorem noModifier (h : IsTypeWord w) {rest : Clause} (hset : rest.startsWith .setWord = false) :
    NoModifier (w :: rest) := by
  have hany : w.isAny modifierWords = false :=
    List.any_eq_false.2 fun k hk => Bool.eq_false_iff.1 (h.isKeyword_eq (List.mem_append_left _ hk))
  rw [NoModifier, startsModifier, hany, hset, Bool.and_false]
  rfl

end IsTypeWord

namespace IsSimpleType

theorem comments (h : IsSimpleType args ts) : ∀ l ∈ ts, l.token ≠ .comment := by
  cases h with
  | word hw =>
      intro l hl
      obtain ⟨value, hvalue⟩ := hw.word
      rw [List.mem_singleton.1 hl, hvalue]
      exact nofun
  | @group w left right args hw hleft hright _ hargs =>
      obtain ⟨value, hvalue⟩ := hw.word
      refine List.forall_mem_append.2 ⟨List.forall_mem_cons.2 ⟨?_,
        List.forall_mem_cons.2 ⟨?_, hargs⟩⟩, List.forall_mem_singleton.2 ?_⟩
      · rw [hvalue]
        exact nofun
      · rw [hleft]
        exact nofun
      · rw [hright]
        exact nofun

/-- Lexemes of the same tokens are a simple type too. -/
theorem congr (h : IsSimpleType args ts) {ts' : Clause}
    (htokens : ts'.map Lexeme.token = ts.map Lexeme.token) :
    ∃ args', args'.map Lexeme.token = args.map Lexeme.token ∧ IsSimpleType args' ts' := by
  have hword : ∀ {w w' : Lexeme}, w'.token = w.token → IsTypeWord w → IsTypeWord w' := by
    rintro w w' heq ⟨hvalue, hother⟩
    refine ⟨heq ▸ hvalue, ?_⟩
    rwa [Lexeme.isAny, isKeyword_congr heq]
  cases h with
  | word hw =>
      obtain ⟨w', rfl, hw'⟩ := List.map_eq_singleton_iff.1 htokens
      exact ⟨[], rfl, .word (hword hw' hw)⟩
  | @group w left right args hw hleft hright hbalanced hargs =>
      rw [List.cons_append, List.cons_append, List.map_cons, List.map_cons, List.map_append,
        List.map_singleton] at htokens
      obtain ⟨w', more, rfl, hw', hmore⟩ := List.map_eq_cons_iff.1 htokens
      obtain ⟨left', more, rfl, hleft', hmore⟩ := List.map_eq_cons_iff.1 hmore
      obtain ⟨args', more, rfl, hargs', hmore⟩ := List.map_eq_append_iff.1 hmore
      obtain ⟨right', rfl, hright'⟩ := List.map_eq_singleton_iff.1 hmore
      exact ⟨args', hargs', .group (hword hw' hw) (hleft'.trans hleft) (hright'.trans hright)
        ((isBalanced_congr hargs').trans hbalanced)
        (forall_token_congr (p := (· ≠ .comment)) hargs' hargs)⟩

theorem startsWith_eq (h : IsSimpleType args ts) {k : Keyword}
    (hk : k ∈ modifierWords ++ [.usingWord, .forWord]) : ts.startsWith k = false := by
  cases h with
  | word hw => exact hw.isKeyword_eq hk
  | group hw => exact hw.isKeyword_eq hk

theorem startsGroup_eq (h : IsSimpleType args ts) : ts.startsGroup = false := by
  cases h with
  | word hw => exact beq_eq_false_iff_ne.2 hw.paren.1
  | group hw => exact beq_eq_false_iff_ne.2 hw.paren.1

/-- The columns of an index follow if the group starts with a word. -/
theorem indexColumnsFollow_group {left right : Lexeme} (hleft : left.token = .leftParen)
    (hright : right.token = .rightParen) (args : Clause) :
    TableConstraint.indexColumnsFollow (left :: (args ++ [right])) = true ↔
      ∃ first ∈ args.head?, first.token.isWord = true := by
  rw [TableConstraint.indexColumnsFollow, startsGroup, hleft]
  cases args with
  | nil => simp [hleft, hright, Token.isWord]
  | cons first more => simp [hleft]

theorem indexColumnsFollow_iff (h : IsSimpleType args ts) :
    TableConstraint.indexColumnsFollow (ts.skipAny [.index, .key]) = true ↔
      ∃ first ∈ args.head?, first.token.isWord = true := by
  cases h with
  | word hw =>
      rw [skipAny]
      split
      · simp [TableConstraint.indexColumnsFollow, startsGroup]
      · simp [TableConstraint.indexColumnsFollow, startsGroup]
  | @group w left right args hw hleft hright _ _ =>
      have hgroup := indexColumnsFollow_group hleft hright args
      rw [List.cons_append, List.cons_append, skipAny]
      split
      · exact hgroup
      · -- The word before the group would be the name of the index.
        rw [TableConstraint.indexColumnsFollow, startsGroup, hleft] at hgroup
        rw [TableConstraint.indexColumnsFollow, startsGroup, beq_eq_false_iff_ne.2 hw.paren.1,
          hw.isName]
        simpa using hgroup

/-- A run goes through a simple type. -/
theorem run_eq (h : IsSimpleType args ts) : run 0 ts = (ts, []) := by
  have hclause : ts.isBalanced 0 = true ∧ ts.Outside NoModifier 0 := by
    cases h with
    | word hw =>
        rw [isBalanced, if_neg hw.paren.1, if_neg hw.paren.2, Outside, if_neg hw.paren.1,
          if_neg hw.paren.2]
        exact ⟨rfl, fun _ => hw.noModifier rfl, trivial⟩
    | @group w left right args hw hleft hright hbalanced _ =>
        have hset : startsWith .setWord (left :: (args ++ [right])) = false := by
          rw [startsWith, Lexeme.isKeyword, Lexeme.keyword?, hleft]
          rfl
        have hclose : isBalanced 1 [right] = true := by simp [isBalanced, hright]
        have hinside : Outside NoModifier 1 (args ++ [right]) := by
          refine @Outside.of_inside _ _ 0 _ 0 hbalanced ?_
          rw [Outside, if_neg (by simp [hright]), if_pos hright]
          trivial
        rw [List.cons_append, List.cons_append, isBalanced, if_neg hw.paren.1, if_neg hw.paren.2,
          isBalanced, if_pos hleft, Outside, if_neg hw.paren.1, if_neg hw.paren.2, Outside,
          if_pos hleft]
        exact ⟨(isBalanced_append 1 hbalanced [right]).trans hclose, fun _ => hw.noModifier hset,
          hinside⟩
  have hrun := run_append hclause.1 hclause.2 (rfl : startsWith .setWord [] = false)
  rwa [List.append_nil, run, List.append_nil] at hrun

end IsSimpleType

theorem isIgnored_iff (hl : l.token = nameToken name) (hts : IsSimpleType args ts) :
    TableConstraint.isIgnored (l :: ts) = true ↔ TakenForIndex name args := by
  have hk : l.keyword? = (nameToken name).keyword? := by rw [Lexeme.keyword?, hl]
  have hreserved : ∀ k ∈ reservedStarts, l.keyword? ≠ some k := fun k hmem hl =>
    keyword?_nameToken (hk.symm.trans hl) hmem
  have hindex := hts.indexColumnsFollow_iff
  rw [TableConstraint.isIgnored, TakenForIndex, ← hk]
  split
  case h_1 hcheck => exact absurd hcheck (hreserved _ (by decide))
  case h_2 hword => simp [hword, hindex]
  case h_3 hword => simp [hword, hindex]
  case h_4 hword => exact absurd hword (hreserved _ (by decide))
  case h_5 hword => exact absurd hword (hreserved _ (by decide))
  case h_6 hword =>
    simp [hword, hts.startsWith_eq (k := .usingWord) (by decide), hts.startsGroup_eq]
  case h_7 hword => exact absurd hword (hreserved _ (by decide))
  case h_8 hword => simp [hword, hts.startsWith_eq (k := .forWord) (by decide)]
  case h_9 hfulltext hspatial _ _ _ _ _ =>
    refine ⟨fun h => absurd h Bool.false_ne_true, fun h => ?_⟩
    rcases h.1 with hword | hword
    · exact absurd hword hfulltext
    · exact absurd hword hspatial

/-- What starts with a name states no constraint, but for the one that says nothing. -/
theorem ofClause?_nameToken (hl : l.token = nameToken name) (ts : Clause) :
    TableConstraint.ofClause? (l :: ts) =
      if TableConstraint.isIgnored (l :: ts) then some .ignored else none := by
  have hne : ∀ k ∈ reservedStarts, l.keyword? ≠ some k := by
    intro k hmem hk
    rw [Lexeme.keyword?, hl] at hk
    exact keyword?_nameToken hk hmem
  have hbody : TableConstraint.body? (l :: ts) = none := by
    rw [TableConstraint.body?, after?_cons_ne (hne _ (by decide)),
      after?_cons_ne (hne _ (by decide)), after?_cons_ne (hne _ (by decide))]
  rw [TableConstraint.ofClause?, after?_cons_ne (hne _ (by decide)), hbody, Option.none_or]

/-- A name and a simple type can always be read as a column. -/
theorem ofClause_nameToken (hl : l.token = nameToken name) (hts : IsSimpleType args ts) :
    Column.ofClause (l :: ts) = .ok { name, dataType := ts.text } := by
  have hname : l.name? = some name := by rw [Lexeme.name?, hl, name?_nameToken]
  have hne : ts.isEmpty = false := by
    cases hts with
    | word => rfl
    | group => rfl
  rw [Column.ofClause, hname]
  dsimp only
  rw [hts.run_eq]
  dsimp only
  rw [hne, if_neg Bool.false_ne_true, Column.modifiers]

theorem takenForIndex_congr {args' : Clause}
    (h : args'.map Lexeme.token = args.map Lexeme.token) :
    TakenForIndex name args' ↔ TakenForIndex name args := by
  cases args with
  | nil =>
      obtain rfl := List.map_eq_nil_iff.1 h
      exact Iff.rfl
  | cons first more =>
      obtain ⟨first', more', rfl, hfirst, -⟩ := List.map_eq_cons_iff.1 h
      simp [TakenForIndex, hfirst]

/-- A text after a name and a blank gives its own tokens and its own text. -/
theorem lexemes_quote_append (d : Dialect) (name : String) {t : String}
    (ht : lexemes t = .ok ts) (hts : ∀ l ∈ ts, l.token ≠ .comment) :
    ∃ (l : Lexeme) (ts' : Clause), lexemes (d.quote name ++ " " ++ t) = .ok (l :: ts') ∧
      l.token = nameToken name ∧ ts'.map Lexeme.token = ts.map Lexeme.token ∧
      ts'.text = ts.text := by
  obtain ⟨ts₁, hspaced, htokens₁, htext₁⟩ := exists_lexemesFrom_spaced ht true
  have hcomments := forall_token_congr (p := (· ≠ .comment)) htokens₁ hts
  obtain ⟨ls, place, afterWord, spaced, hls, hname⟩ :=
    reads_quote d name (' ' :: t.toList) (stops_cons (by decide) _) .start false false
  obtain ⟨l, rfl, hl⟩ := List.map_eq_singleton_iff.1 hls
  obtain ⟨ts', _, _, _, hface, htype⟩ :=
    @lexemesFrom_append [] stops_nil _ (place.advance [' ']) _ _ _ _ hspaced hcomments
  refine ⟨l, ts', ?_, hl, ?_, ?_⟩
  · have hgap : scan afterWord ' ' t.toList = .ok (none, 0) := rfl
    rw [List.append_nil, lexemesFrom] at htype
    rw [lexemesFrom_gap hgap, List.take_zero, List.drop_zero, htype] at hname
    rw [lexemes, String.toList_append, String.toList_append, List.append_assoc]
    refine hname.trans ?_
    simp [Except.map]
  · rw [map_token_of_face hface, htokens₁]
  · rw [text_of_face hface, htext₁]

/-- Whatever the name and the type, the column is read as it was written, unless the two are taken
for an index. -/
theorem ofClause?_quote_type (d : Dialect) (name : String) {t : String} (ht : lexemes t = .ok ts)
    (hts : IsSimpleType args ts) :
    ∃ c, lexemes (d.quote name ++ " " ++ t) = .ok c ∧
      Column.ofClause c = .ok { name, dataType := ts.text } ∧
      (TableConstraint.ofClause? c = none ↔ ¬TakenForIndex name args) ∧
      (TakenForIndex name args → TableConstraint.ofClause? c = some .ignored) := by
  obtain ⟨l, ts', hc, hl, htokens, htext⟩ := lexemes_quote_append d name ht hts.comments
  obtain ⟨args', hargs, hts'⟩ := hts.congr htokens
  have htaken : TableConstraint.isIgnored (l :: ts') = true ↔ TakenForIndex name args := by
    rw [isIgnored_iff hl hts', takenForIndex_congr hargs]
  refine ⟨l :: ts', hc, ?_, ?_, ?_⟩
  · rw [ofClause_nameToken hl hts', htext]
  · rw [ofClause?_nameToken hl, ← htaken]
    cases TableConstraint.isIgnored (l :: ts') with
    | false => simp
    | true => simp
  · intro htaken'
    rw [ofClause?_nameToken hl, if_pos (htaken.2 htaken')]

/-- The type `DECIMAL(10, 2)`. -/
def decimalType : Clause :=
  [⟨.word "DECIMAL", "DECIMAL", ⟨1, 1⟩, false⟩, ⟨.leftParen, "(", ⟨1, 8⟩, false⟩,
    ⟨.number, "10", ⟨1, 9⟩, false⟩, ⟨.comma, ",", ⟨1, 11⟩, false⟩, ⟨.number, "2", ⟨1, 13⟩, true⟩,
    ⟨.rightParen, ")", ⟨1, 14⟩, false⟩]

theorem isSimpleType_decimal : IsSimpleType ((decimalType.drop 2).take 3) decimalType :=
  .group ⟨⟨_, rfl⟩, by decide⟩ rfl rfl rfl (by decide)

/-- Numbers in the group keep a column that has the name of an index word. -/
theorem ofClause?_quote_type_decimal :
    ∃ c, lexemes (Dialect.mySql.quote "fulltext" ++ " " ++ "DECIMAL(10, 2)") = .ok c ∧
      Column.ofClause c = .ok { name := "fulltext", dataType := "DECIMAL(10, 2)" } ∧
      TableConstraint.ofClause? c = none := by
  have hlexemes : lexemes "DECIMAL(10, 2)" = .ok decimalType := by
    decide +kernel
  obtain ⟨c, hc, hcolumn, hnone, -⟩ :=
    ofClause?_quote_type .mySql "fulltext" hlexemes isSimpleType_decimal
  refine ⟨c, hc, hcolumn, hnone.2 ?_⟩
  rintro ⟨-, first, hfirst, hword⟩
  obtain rfl := Option.some.inj hfirst
  cases hword

/-- The type `VARCHAR(MAX)`. -/
def varcharMaxType : Clause :=
  [⟨.word "VARCHAR", "VARCHAR", ⟨1, 1⟩, false⟩, ⟨.leftParen, "(", ⟨1, 8⟩, false⟩,
    ⟨.word "MAX", "MAX", ⟨1, 9⟩, false⟩, ⟨.rightParen, ")", ⟨1, 12⟩, false⟩]

/-- A word in the group turns the column into an index. -/
theorem ofClause?_quote_varcharMax :
    lexemes "VARCHAR(MAX)" = .ok varcharMaxType ∧
      IsSimpleType ((varcharMaxType.drop 2).take 1) varcharMaxType ∧
      ∃ c, lexemes (Dialect.sqlServer.quote "fulltext" ++ " " ++ "VARCHAR(MAX)") = .ok c ∧
        TableConstraint.ofClause? c ≠ none := by
  have hlexemes : lexemes "VARCHAR(MAX)" = .ok varcharMaxType := by
    decide +kernel
  have hsimple : IsSimpleType ((varcharMaxType.drop 2).take 1) varcharMaxType :=
    .group ⟨⟨_, rfl⟩, by decide⟩ rfl rfl rfl (by decide)
  refine ⟨hlexemes, hsimple, ?_⟩
  have htaken : ((lexemes (Dialect.sqlServer.quote "fulltext" ++ " " ++
      "VARCHAR(MAX)")).toOption.any fun c => (TableConstraint.ofClause? c).isSome) = true := by
    decide +kernel
  cases hc : lexemes (Dialect.sqlServer.quote "fulltext" ++ " " ++ "VARCHAR(MAX)") with
  | error e =>
      rw [hc] at htaken
      cases htaken
  | ok c =>
      rw [hc] at htaken
      exact ⟨c, rfl, Option.isSome_iff_ne_none.1 htaken⟩

end Ddl

end EntityRelation
