import EntityRelation.Proofs.Ddl.Insertion
import EntityRelation.Proofs.Ddl.ModifierOrder

/-!
# References and foreign key clauses

A reference behind the last modifier of a column definition changes what the definition says of its
target and nothing else (`IsColumnClause.ofClause_append`). The clause stays a column definition,
for no constraint is told by its last words (`TableConstraint.ofClause?_append_reference`): a `LIKE`
clause alone may go on behind the name of its table (`MimicsLike`). A foreign key clause of one
column says the same as a constraint of its own (`IsForeignKey.ofClause?_eq`).
-/

namespace EntityRelation

namespace Ddl

/-! ## A reference behind a clause -/

open Clause

variable {c ref : Clause} {target : ForeignTarget} {name : String}

theorem IsTableName.exists_cons (h : IsTableName name c) :
    ∃ l more, c = l :: more ∧ l.isName = true := by
  cases h with
  | last hl => exact ⟨_, [], rfl, by rw [Lexeme.isName, hl]; rfl⟩
  | qualified hl _ _ => exact ⟨_, _, rfl, hl⟩

theorem isInner_of_isName {l : Lexeme} (h : l.isName = true) : isInner l.token = true := by
  rw [Lexeme.isName, Lexeme.name?] at h
  cases htoken : l.token with
  | word | quotedWord | string => rfl
  | _ => simp [htoken, Token.name?] at h

theorem IsTableName.isContained (h : IsTableName name c) : c.IsContained := by
  induction h with
  | last hl => exact IsContained.nil.cons (isInner_of_isName (by rw [Lexeme.isName, hl]; rfl))
  | qualified hl hpoint _ ih =>
      exact (ih.cons (by rw [hpoint]; rfl)).cons (isInner_of_isName hl)

theorem isNameGroup_singleton {left m right : Lexeme} (hleft : left.token = .leftParen)
    (hm : m.name? = some name) (hright : right.token = .rightParen) :
    IsNameGroup [name] [left, m, right] :=
  have hinner : IsInside [m] :=
    (IsContained.nil.cons (isInner_of_isName (by rw [Lexeme.isName, hm]; rfl))).toIsInside
  ⟨left, [m], right, rfl, hleft, hright, hinner, columnNames_singleton hm⟩

namespace IsModifier

variable (h : IsModifier (.reference target) ref)

include h

/-- A reference is the word `REFERENCES` and a name, and maybe more. -/
theorem exists_references : ∃ k l more, ref = k :: l :: more ∧
    k.keyword? = some .references ∧ l.isName = true := by
  cases h with
  | referenceTable hl hc =>
      obtain ⟨l, more, rfl, hname⟩ := hc.exists_cons
      exact ⟨_, l, more, rfl, hl, hname⟩
  | referenceColumn hl hc =>
      obtain ⟨l, more, rfl, hname⟩ := hc.exists_cons
      exact ⟨_, l, _, rfl, hl, hname⟩

theorem isContained_reference : ref.IsContained := by
  cases h with
  | referenceTable hl hc => exact hc.isContained.cons (isInner_of_keyword? hl)
  | referenceColumn hl hc hleft hm hright =>
      exact (hc.isContained.append (isNameGroup_singleton hleft hm hright).isContained).cons
        (isInner_of_keyword? hl)

theorem avoids_reference {ks : List Keyword} (hks : .references ∉ ks) : Avoids ks ref := by
  obtain ⟨k, l, more, rfl, hk, -⟩ := h.exists_references
  intro m hm
  obtain rfl := Option.some.inj hm
  refine List.any_eq_false.2 fun k' hk' => ?_
  rw [Lexeme.isKeyword, hk, beq_iff_eq]
  intro heq
  exact hks (Option.some.inj heq ▸ hk')

end IsModifier

theorem Clause.IsOneEntry.append (hc : c.IsOneEntry) {b : Clause} (hb : b.IsContained) :
    IsOneEntry (c ++ b) := by
  refine ⟨by simp [hc.ne_nil], ?_, ?_⟩
  · have happend := isBalanced_append 0 hc.balanced b
    exact happend.trans hb.balanced
  · exact hc.noComma.append (fun _ => NoComma.append) hc.balanced hb.noComma

/-- A column definition that starts with `LIKE` and ends in a period, with a reference behind it to
a table whose name starts with a word that goes on with a `LIKE` clause. -/
def MimicsLike (entry ref : Clause) : Prop :=
  entry.startsWith .like = true ∧ (∃ l ∈ entry.getLast?, l.token = .period) ∧
    startsWithAny [.including, .excluding] (ref.drop 1) = true

namespace TableConstraint

theorem indexColumnsFollow_append (hc : c.isBalanced 0 = true)
    (href : IsModifier (.reference target) ref) :
    indexColumnsFollow (c ++ ref) = indexColumnsFollow c := by
  obtain ⟨k, l, more, rfl, hk, hl⟩ := href.exists_references
  have hkparen := (paren_of_keyword? hk).1
  obtain ⟨name, hname⟩ := Option.isSome_iff_exists.1 hl
  have hlparen := (token_of_name? hname).2.1
  match c with
  | [] =>
      cases more with
      | nil => simp [indexColumnsFollow, startsGroup, hkparen]
      | cons _ _ => simp [indexColumnsFollow, startsGroup, hkparen, hlparen]
  | [x] =>
      have hx : x.token ≠ .leftParen := by
        rintro hx
        simp [isBalanced, hx] at hc
      cases more with
      | nil => simp [indexColumnsFollow, startsGroup, hx, hkparen]
      | cons _ _ => simp [indexColumnsFollow, startsGroup, hx, hkparen]
  | [x, y] =>
      by_cases hx : x.token = .leftParen
      · simp [indexColumnsFollow, startsGroup, hx]
      · have hy : y.token ≠ .leftParen := by
          rintro hy
          simp [isBalanced, hx, hy] at hc
        simp [indexColumnsFollow, startsGroup, hx, hy]
  | x :: y :: z :: c => rfl

/-- A `LIKE` clause needs an end, or one of two words, behind the name of its table. -/
theorem isIgnored_like_append {l m : Lexeme} {more : Clause} (hl : l.keyword? = some .like)
    (href : IsModifier (.reference target) ref) (hmimic : ¬MimicsLike (l :: m :: more) ref)
    (h : isIgnored (l :: m :: more) = false) : isIgnored (l :: m :: (more ++ ref)) = false := by
  rw [isIgnored, hl] at h ⊢
  dsimp only at h ⊢
  cases hm : m.name? with
  | none => simp [tableName?, hm]
  | some first =>
      rw [tableName?, hm, Option.map_some] at h ⊢
      rcases hread : qualifiedFrom first more with ⟨last, rest⟩
      rw [hread] at h
      rcases rest with _ | ⟨x, _ | ⟨y, rest⟩⟩
      · cases h
      · obtain ⟨k, n, tail, rfl, hk, hn⟩ := href.exists_references
        rw [qualifiedFrom_resume, hread]
        dsimp only [List.singleton_append]
        by_cases hperiod : x.token = .period
        · -- The word `REFERENCES` goes on with the name, and the clause with what follows it.
          obtain ⟨value, hvalue⟩ := isWord_of_keyword? hk
          have hword : k.name? = some value := by rw [Lexeme.name?, hvalue, Token.name?]
          have hn : NoPeriod (n :: tail) := noPeriod_cons fun htoken => by
            simp [Lexeme.isName, Lexeme.name?, htoken, Token.name?] at hn
          obtain ⟨front, rfl⟩ : [x] <:+ more := by
            have hsuffix := qualifiedFrom_suffix first more
            rwa [hread] at hsuffix
          have hlast : (l :: m :: front ++ [x]).getLast? = some x := List.getLast?_concat
          have hlike : startsWith .like (l :: m :: (front ++ [x])) = true := by
            rw [startsWith, Lexeme.isKeyword, hl, beq_self_eq_true]
          rw [qualifiedFrom, if_pos hperiod, hword]
          dsimp only
          rw [qualifiedFrom_of_noPeriod hn]
          exact Bool.eq_false_iff.2 fun hstarts =>
            hmimic ⟨hlike, ⟨x, hlast, hperiod⟩, hstarts⟩
        · rw [qualifiedFrom_of_noPeriod (noPeriod_cons hperiod)]
          exact h
      · rw [qualifiedFrom_append hread (by simp)]
        exact h

theorem isBalanced_cons_of_keyword? {l : Lexeme} {k : Keyword} (hl : l.keyword? = some k)
    (depth : Nat) : isBalanced depth (l :: c) = isBalanced depth c := by
  obtain ⟨hopen, hclose⟩ := paren_of_keyword? hl
  rw [isBalanced, if_neg hopen, if_neg hclose]

theorem isBalanced_skipAny {ks : List Keyword} (h : isBalanced 0 c = true) :
    isBalanced 0 (skipAny ks c) = true := by
  cases c with
  | nil => exact h
  | cons l c =>
      rw [skipAny]
      split
      · next hany =>
        obtain ⟨k, -, hk⟩ := List.any_eq_true.1 hany
        rwa [isBalanced_cons_of_keyword? (beq_iff_eq.1 hk)] at h
      · exact h

theorem skipAny_cons_append {ks : List Keyword} (l : Lexeme) (a x : Clause) :
    skipAny ks (l :: (a ++ x)) = skipAny ks (l :: a) ++ x := by
  rw [skipAny, skipAny, apply_ite (· ++ x)]
  rfl

theorem isIgnored_append {l m : Lexeme} {more : Clause}
    (hbalanced : isBalanced 0 (l :: m :: more) = true)
    (href : IsModifier (.reference target) ref) (hmimic : ¬MimicsLike (l :: m :: more) ref)
    (h : isIgnored (l :: m :: more) = false) : isIgnored (l :: m :: (more ++ ref)) = false := by
  cases hl : l.keyword? with
  | none => rw [isIgnored, hl]
  | some k =>
      rw [isBalanced_cons_of_keyword? hl] at hbalanced
      have hindex := indexColumnsFollow_append hbalanced href
      have hskip : isBalanced 0 (skipAny [.index, .key] (m :: more)) = true :=
        isBalanced_skipAny hbalanced
      have hskipped := indexColumnsFollow_append hskip href
      rw [← skipAny_cons_append] at hskipped
      by_cases hlike : k = .like
      · exact isIgnored_like_append (hlike ▸ hl) href hmimic h
      · rw [isIgnored, hl] at h ⊢
        cases k with
        | check | exclude | period => exact h
        | fulltext | spatial => exact hskipped.trans h
        | key | index => exact hindex.trans h
        | like => contradiction
        | _ => rfl

theorem body?_append (href : IsModifier (.reference target) ref) (h : body? c = none) :
    body? (c ++ ref) = none := by
  have hnone : ∀ ks : List Keyword, .references ∉ ks → after? ks c = none →
      after? ks (c ++ ref) = none := by
    intro ks hks hc
    rw [after?_append (href.avoids_reference hks), hc]
    rfl
  rw [body?] at h ⊢
  split at h
  · cases h
  · next hprimary =>
    rw [hnone _ (by decide) hprimary]
    dsimp only
    split at h
    · cases h
    · next hforeign =>
      rw [hnone _ (by decide) hforeign]
      dsimp only
      split at h
      · cases h
      · next hunique => rw [hnone _ (by decide) hunique]

/-- A column definition is none of the constraints with a reference behind it either, unless it
mimics a `LIKE` clause. -/
theorem ofClause?_append_reference (hlength : 2 ≤ c.length) (hbalanced : c.isBalanced 0 = true)
    (href : IsModifier (.reference target) ref) (hmimic : ¬MimicsLike c ref)
    (h : ofClause? c = none) : ofClause? (c ++ ref) = none := by
  match c, hlength with
  | l :: m :: more, _ =>
      have hname : after? [.constraint] (l :: m :: more) = none := by
        rw [ofClause?] at h
        split at h
        · cases h
        · assumption
      rw [ofClause?, hname] at h
      obtain ⟨hbody, hignored⟩ := Option.or_eq_none_iff.1 h
      have hignored : isIgnored (l :: m :: more) = false := by
        by_contra hnot
        rw [if_pos (Bool.not_eq_false _ ▸ hnot)] at hignored
        cases hignored
      rw [ofClause?, after?_append (href.avoids_reference (by decide)), hname]
      dsimp only [Option.map_none]
      rw [body?_append href hbody, List.cons_append, List.cons_append,
        isIgnored_append hbalanced href hmimic hignored]
      rfl

end TableConstraint

/-! ## The definition of a column -/

/-- The lexemes of a name, a type and complete modifiers, and what the modifiers say. -/
inductive IsColumnClause (name : String) : List Trait → Clause → Prop where
  | intro {l : Lexeme} {type : Clause} {groups : List (Trait × Clause)} (hl : l.name? = some name)
      (hne : type ≠ []) (hbalanced : type.isBalanced 0 = true) (htype : type.Outside NoModifier 0)
      (hgroups : ∀ g ∈ groups, IsModifier g.1 g.2) :
      IsColumnClause name (groups.map Prod.fst) (l :: (type ++ (groups.map Prod.snd).flatten))

namespace IsColumnClause

variable {traits : List Trait}

theorem two_le_length (h : IsColumnClause name traits c) : 2 ≤ c.length := by
  cases h with
  | intro _ hne _ _ _ =>
      have hpos := List.length_pos_iff.2 hne
      rw [List.length_cons, List.length_append]
      omega

/-- One more modifier behind a column definition changes what it says and not how it is read. -/
theorem ofClause_append (h : IsColumnClause name traits c) {t : Trait} {b : Clause}
    (hb : IsModifier t b) : ∃ dataType,
      Column.ofClause c = .ok (Column.described name dataType traits) ∧
      Column.ofClause (c ++ b) = .ok (t.apply (Column.described name dataType traits)) := by
  cases h with
  | @intro l type groups hl hne hbalanced htype hgroups =>
      refine ⟨type.text, ?_, ?_⟩
      · rw [(alters_flatten hgroups).ofClause_eq hl hne hbalanced htype, Column.foldl_apply]
      · have hmore := (alters_flatten hgroups).append hb.alters
        rw [List.cons_append, List.append_assoc, hmore.ofClause_eq hl hne hbalanced htype,
          Function.comp_apply, Column.foldl_apply]

end IsColumnClause

/-! ## Foreign key clauses -/

/-- The lexemes of the name of a constraint, which may be left out. -/
inductive IsConstraintName : Clause → Prop where
  | unnamed : IsConstraintName []
  /-- `CONSTRAINT` and a name that is none of the words that may follow at once. -/
  | named {l m : Lexeme} (hl : l.keyword? = some .constraint) (hm : m.isName = true)
      (hkind : m.isAny TableConstraint.kinds = false) : IsConstraintName [l, m]

theorem TableConstraint.afterName_cons {m : Lexeme} (hkind : m.isAny kinds = false)
    (rest : Clause) : afterName (m :: rest) = rest := by
  have hstart : startsWithAny kinds (m :: rest) = false := hkind
  rw [afterName, hstart, if_neg Bool.false_ne_true, List.drop_one, List.tail_cons]

/-- The name of a constraint does not matter. -/
theorem IsConstraintName.ofClause?_append {label rest : Clause} {l : Lexeme}
    {constraint : TableConstraint} (h : IsConstraintName label)
    (hl : l.keyword? ≠ some .constraint)
    (hbody : TableConstraint.body? (l :: rest) = some constraint) :
    TableConstraint.ofClause? (label ++ l :: rest) = some constraint := by
  cases h with
  | unnamed =>
      rw [List.nil_append, TableConstraint.ofClause?, after?_cons_ne hl, hbody]
      rfl
  | named hl hm hkind =>
      rw [List.cons_append, TableConstraint.ofClause?, after?_cons hl, after?]
      dsimp only
      rw [List.cons_append, TableConstraint.afterName_cons hkind, List.nil_append, hbody]
      rfl

/-- The lexemes of a foreign key from one column, as a constraint of its table. -/
inductive IsForeignKey (column : String) (target : ForeignTarget) : Clause → Prop where
  | intro {label ref : Clause} {foreign key left m right : Lexeme} (hlabel : IsConstraintName label)
      (hforeign : foreign.keyword? = some .foreign) (hkey : key.keyword? = some .key)
      (hleft : left.token = .leftParen) (hm : m.name? = some column)
      (hright : right.token = .rightParen) (href : IsModifier (.reference target) ref) :
      IsForeignKey column target (label ++ foreign :: key :: ([left, m, right] ++ ref))

namespace IsForeignKey

open TableConstraint

theorem foreignTarget_eq (href : IsModifier (.reference target) ref) :
    foreignTarget ref = (some target.table, target.column.toList) := by
  cases href with
  | @referenceTable l table c hl hc =>
      have hnone : NoPeriod [] := nofun
      have hname : tableName? c = some (table, []) := by
        simpa using hc.tableName?_append hnone
      rw [foreignTarget, after?_cons hl, after?]
      dsimp only
      rw [hname]
      rfl
  | @referenceColumn l left m right table column c hl hc hleft hm hright =>
      have hname : tableName? (c ++ [left, m, right]) = some (table, [left, m, right]) :=
        hc.tableName?_append (noPeriod_cons (by simp [hleft]))
      rw [foreignTarget, after?_cons hl, after?]
      dsimp only
      rw [hname]
      dsimp only
      have hgroup := (isNameGroup_singleton hleft hm hright).columnGroup []
      rw [List.append_nil] at hgroup
      rw [hgroup]
      rfl

variable {column : String} (h : IsForeignKey column target c)

include h

theorem ne_nil : c ≠ [] := by
  cases h with
  | intro => simp

theorem isContained : c.IsContained := by
  cases h with
  | @intro label ref foreign key left m right hlabel hforeign hkey hleft hm hright href =>
      have hgroup := (isNameGroup_singleton hleft hm hright).isContained
      have hcolumns := hgroup.append href.isContained_reference
      have hbody := (hcolumns.cons (isInner_of_keyword? hkey)).cons (isInner_of_keyword? hforeign)
      have hname : label.IsContained := by
        cases hlabel with
        | unnamed => exact .nil
        | named hl hm _ =>
            exact (IsContained.nil.cons (isInner_of_isName hm)).cons (isInner_of_keyword? hl)
      exact hname.append hbody

/-- A foreign key clause is read as what it says. -/
theorem ofClause?_eq : ofClause? c =
    some (.foreignKey [column] (some target.table) target.column.toList) := by
  cases h with
  | @intro label ref foreign key left m right hlabel hforeign hkey hleft hm hright href =>
      have hbody : body? (foreign :: key :: ([left, m, right] ++ ref)) =
          some (.foreignKey [column] (some target.table) target.column.toList) := by
        have hgroup := isNameGroup_singleton hleft hm hright
        rw [body?, after?_cons_ne (by rw [hforeign]; decide), after?_cons hforeign,
          after?_cons hkey, after?]
        dsimp only
        rw [toGroup, if_pos (hgroup.startsGroup ref), hgroup.columnGroup]
        dsimp only
        rw [foreignTarget_eq href]
      exact hlabel.ofClause?_append (by rw [hforeign]; decide) hbody

end IsForeignKey

end Ddl

end EntityRelation
