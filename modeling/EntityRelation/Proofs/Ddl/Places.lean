import EntityRelation.Ddl.Import
import EntityRelation.Proofs.Ddl.Grouping

/-!
# Readers of clauses do not look at places

A lexeme knows where it stands, and no reader of clauses asks it: each of them gives the same for a
clause whose lexemes have all been put in one place. What is left of the clause has been put there
too, so a reader that hands its rest to another one needs nothing but the lemma about the other.
-/

namespace EntityRelation

namespace Ddl

/-- The lexeme at the start of the text. -/
def Lexeme.unplaced (l : Lexeme) : Lexeme :=
  { l with place := .start }

namespace Lexeme

variable (l : Lexeme)

@[simp] theorem token_unplaced : l.unplaced.token = l.token := rfl

@[simp] theorem text_unplaced : l.unplaced.text = l.text := rfl

@[simp] theorem spaced_unplaced : l.unplaced.spaced = l.spaced := rfl

@[simp] theorem line_unplaced : l.unplaced.line = 1 := rfl

@[simp] theorem keyword?_unplaced : l.unplaced.keyword? = l.keyword? := rfl

@[simp] theorem isKeyword_unplaced (k : Keyword) : l.unplaced.isKeyword k = l.isKeyword k := rfl

@[simp] theorem isAny_unplaced (ks : List Keyword) : l.unplaced.isAny ks = l.isAny ks := rfl

@[simp] theorem isSpelled_unplaced (spelling : String) :
    l.unplaced.isSpelled spelling = l.isSpelled spelling := rfl

@[simp] theorem name?_unplaced : l.unplaced.name? = l.name? := rfl

@[simp] theorem isName_unplaced : l.unplaced.isName = l.isName := rfl

end Lexeme

/-- The clause with all lexemes at the start of the text. -/
def Clause.unplaced (c : Clause) : Clause :=
  c.map Lexeme.unplaced

namespace Clause

@[simp] theorem unplaced_nil : unplaced [] = [] := rfl

@[simp] theorem unplaced_cons (l : Lexeme) (c : Clause) :
    unplaced (l :: c) = l.unplaced :: unplaced c := rfl

@[simp] theorem isEmpty_unplaced (c : Clause) : List.isEmpty c.unplaced = List.isEmpty c :=
  List.isEmpty_map

@[simp] theorem drop_unplaced (n : Nat) (c : Clause) :
    List.drop n c.unplaced = unplaced (List.drop n c) :=
  List.map_drop.symm

/-! ## Groups and entries -/

theorem closeGroup?_unplaced (depth : Nat) (c : Clause) :
    closeGroup? depth c.unplaced = (closeGroup? depth c).map (Prod.map unplaced unplaced) := by
  induction c generalizing depth with
  | nil => rfl
  | cons l c ih =>
      rw [unplaced_cons]
      rcases token_cases l with hleft | hright | hother
      · rw [closeGroup?_left hleft, closeGroup?_left (l := l.unplaced) hleft, ih, Option.map_map,
          Option.map_map]
        rfl
      · cases depth with
        | zero =>
            rw [closeGroup?_right_zero hright, closeGroup?_right_zero (l := l.unplaced) hright]
            rfl
        | succ depth =>
            rw [closeGroup?_right_succ hright, closeGroup?_right_succ (l := l.unplaced) hright, ih,
              Option.map_map, Option.map_map]
            rfl
      · rw [closeGroup?_other hother, closeGroup?_other (l := l.unplaced) hother, ih,
          Option.map_map, Option.map_map]
        rfl

@[simp] theorem startsGroup_unplaced (c : Clause) : startsGroup c.unplaced = startsGroup c := by
  cases c with
  | nil => rfl
  | cons l c => rfl

theorem group?_unplaced (c : Clause) :
    group? c.unplaced = (group? c).map (Prod.map unplaced unplaced) := by
  cases c with
  | nil => rfl
  | cons l c =>
      rw [unplaced_cons, group?, group?, closeGroup?_unplaced, Lexeme.token_unplaced]
      split
      · cases closeGroup? 0 c with
        | none => rfl
        | some pair => rfl
      · rfl

@[simp] theorem skipGroup_unplaced (c : Clause) : skipGroup c.unplaced = unplaced (skipGroup c) := by
  rw [skipGroup, skipGroup, group?_unplaced]
  cases group? c with
  | none => rfl
  | some pair => rfl

theorem splitFrom_unplaced (before : Clause) (depth : Nat) (c : Clause) :
    splitFrom before.unplaced depth c.unplaced = (splitFrom before depth c).map unplaced := by
  induction c generalizing before depth with
  | nil => simp [splitFrom, unplaced]
  | cons l c ih =>
      have hbefore : l.unplaced :: before.unplaced = unplaced (l :: before) := rfl
      rw [unplaced_cons]
      rcases token_cases l with hleft | hright | hother
      · rw [splitFrom_left hleft, splitFrom_left (l := l.unplaced) hleft, hbefore, ih]
      · rw [splitFrom_right hright, splitFrom_right (l := l.unplaced) hright, hbefore, ih]
      · by_cases hcomma : depth = 0 → l.token ≠ .comma
        · rw [splitFrom_other hother hcomma, splitFrom_other (l := l.unplaced) hother hcomma,
            hbefore, ih]
        · obtain ⟨rfl, hat⟩ : depth = 0 ∧ l.token = .comma := by simpa using hcomma
          rw [splitFrom_comma hat, splitFrom_comma (l := l.unplaced) hat, List.map_cons,
            ← ih [] 0]
          simp [unplaced]

@[simp] theorem splitTopLevel_unplaced (c : Clause) :
    splitTopLevel c.unplaced = c.splitTopLevel.map unplaced := by
  rw [splitTopLevel, splitTopLevel, ← unplaced_nil, splitFrom_unplaced, List.filter_map]
  congr 2
  funext entry
  simp

@[simp] theorem textAfter_unplaced (c : Clause) : textAfter c.unplaced = textAfter c := by
  induction c with
  | nil => rfl
  | cons l c ih => rw [unplaced_cons, textAfter, ih]; rfl

@[simp] theorem text_unplaced (c : Clause) : text c.unplaced = text c := by
  cases c with
  | nil => rfl
  | cons l c => rw [unplaced_cons, text, textAfter_unplaced]; rfl

@[simp] theorem columnNames_unplaced (c : Clause) : columnNames c.unplaced = columnNames c := by
  rw [columnNames, columnNames, splitTopLevel_unplaced, List.filterMap_map]
  congr 1
  funext entry
  cases entry with
  | nil => rfl
  | cons l entry => rfl

/-! ## Words at the front -/

@[simp] theorem startsWith_unplaced (k : Keyword) (c : Clause) :
    startsWith k c.unplaced = startsWith k c := by
  cases c with
  | nil => rfl
  | cons l c => rfl

@[simp] theorem startsWithAny_unplaced (ks : List Keyword) (c : Clause) :
    startsWithAny ks c.unplaced = startsWithAny ks c := by
  simp [startsWithAny]

theorem after?_unplaced (ks : List Keyword) (c : Clause) :
    after? ks c.unplaced = (after? ks c).map unplaced := by
  induction ks generalizing c with
  | nil => simp [after?]
  | cons k ks ih =>
      cases c with
      | nil => rfl
      | cons l c =>
          rw [unplaced_cons, after?, after?, Lexeme.isKeyword_unplaced, ih]
          split
          · rfl
          · rfl

@[simp] theorem skip_unplaced (ks : List Keyword) (c : Clause) :
    skip ks c.unplaced = unplaced (skip ks c) := by
  rw [skip, skip, after?_unplaced]
  cases after? ks c with
  | none => rfl
  | some rest => rfl

@[simp] theorem skipAny_unplaced (ks : List Keyword) (c : Clause) :
    skipAny ks c.unplaced = unplaced (skipAny ks c) := by
  cases c with
  | nil => rfl
  | cons l c =>
      rw [unplaced_cons, skipAny, skipAny, Lexeme.isAny_unplaced]
      split
      · rfl
      · rfl

@[simp] theorem skipAll_unplaced (ks : List Keyword) (c : Clause) :
    skipAll ks c.unplaced = unplaced (skipAll ks c) := by
  rw [skipAll, skipAll, unplaced, List.dropWhile_map]
  rfl

theorem qualifiedFrom_unplaced (name : String) (c : Clause) :
    qualifiedFrom name c.unplaced = (qualifiedFrom name c).map id unplaced := by
  fun_induction qualifiedFrom name c with
  | case1 name point part rest hpoint next hpart ih =>
      rw [unplaced_cons, unplaced_cons, qualifiedFrom, if_pos (by exact hpoint)]
      simp only [Lexeme.name?_unplaced, hpart, ih]
  | case2 name point part rest hpoint hpart => 
      rw [unplaced_cons, unplaced_cons, qualifiedFrom, if_pos (by exact hpoint)]
      simp only [Lexeme.name?_unplaced, hpart]
      rfl
  | case3 name point part rest hpoint =>
      rw [unplaced_cons, unplaced_cons, qualifiedFrom, if_neg (by exact hpoint)]
      rfl
  | case4 name c h =>
      match c with
      | [] => rfl
      | [l] => rfl
      | l :: m :: rest => exact absurd rfl (h l m rest)

theorem tableName?_unplaced (c : Clause) :
    tableName? c.unplaced = (tableName? c).map (Prod.map id unplaced) := by
  cases c with
  | nil => rfl
  | cons l c =>
      rw [unplaced_cons, tableName?, tableName?, Lexeme.name?_unplaced, Option.map_map]
      exact congrArg (Option.map · l.name?) (funext fun name => qualifiedFrom_unplaced name c)

/-! ## Types and defaults -/

@[simp] theorem startsModifier_unplaced (c : Clause) :
    startsModifier c.unplaced = startsModifier c := by
  cases c with
  | nil => rfl
  | cons l c => simp [startsModifier]

theorem run_unplaced (depth : Nat) (c : Clause) :
    run depth c.unplaced = (run depth c).map unplaced unplaced := by
  induction c generalizing depth with
  | nil => rfl
  | cons l c ih =>
      rw [unplaced_cons]
      rcases token_cases l with hleft | hright | hother
      · rw [run_left hleft, run_left (l := l.unplaced) hleft, ih]
        rfl
      · rw [run_right hright, run_right (l := l.unplaced) hright, ih]
        rfl
      · have hstart := startsModifier_unplaced (l :: c)
        rw [unplaced_cons] at hstart
        by_cases hmodifier : depth = 0 → startsModifier (l :: c) = false
        · rw [run_other hother hmodifier,
            run_other (l := l.unplaced) hother (by rwa [hstart]), ih]
          rfl
        · obtain ⟨rfl, hat⟩ : depth = 0 ∧ startsModifier (l :: c) = true := by
            simpa using hmodifier
          rw [run_modifier hother hat, run_modifier (l := l.unplaced) hother (hstart.trans hat)]
          rfl

theorem defaultRun_unplaced (c : Clause) :
    defaultRun c.unplaced = (defaultRun c).map unplaced unplaced := by
  cases c with
  | nil => rfl
  | cons l c =>
      rw [unplaced_cons, defaultRun, defaultRun, run_unplaced]
      rfl

end Clause

/-! ## Columns -/

namespace Column

open Clause

variable (column : Column)

theorem readReference_unplaced (rest : Clause) :
    column.readReference rest.unplaced = (column.readReference rest).map id unplaced := by
  rw [readReference, readReference, tableName?_unplaced]
  cases tableName? rest with
  | none => rfl
  | some pair =>
      simp only [Option.map_some, Prod.map, group?_unplaced]
      cases group? pair.2 with
      | none => rfl
      | some group => simp

theorem readGenerated_unplaced (rest : Clause) :
    column.readGenerated rest.unplaced = (column.readGenerated rest).map id unplaced := by
  simp only [readGenerated, skip_unplaced, after?_unplaced]
  cases after? [.asWord] (skip [.byWord, .defaultWord] (skip [.always] rest)) with
  | none => rfl
  | some rest => simp

theorem skipComputed_unplaced (rest : Clause) :
    skipComputed rest.unplaced = unplaced (skipComputed rest) := by
  rw [skipComputed, skipComputed, skipGroup_unplaced]
  cases skipGroup rest with
  | nil => rfl
  | cons l more =>
      simp only [unplaced_cons, Lexeme.isAny_unplaced, Lexeme.isSpelled_unplaced]
      exact (apply_ite unplaced _ more (l :: more)).symm

theorem skipAction_unplaced (rest : Clause) :
    skipAction rest.unplaced = unplaced (skipAction rest) := by
  rw [skipAction, skipAction, skipAny_unplaced]
  cases skipAny [.update, .delete] rest with
  | nil => rfl
  | cons l more =>
      simp only [unplaced_cons, Lexeme.isAny_unplaced, drop_unplaced, skipGroup_unplaced]
      exact (apply_ite unplaced _ (more.drop 1) (skipGroup more)).symm

theorem modifier_unplaced (l : Lexeme) (rest : Clause) :
    column.modifier l.unplaced rest.unplaced = (column.modifier l rest).map id unplaced := by
  simp only [modifier, Lexeme.keyword?_unplaced, startsWith_unplaced, skip_unplaced, drop_unplaced,
    defaultRun_unplaced, readReference_unplaced, readGenerated_unplaced, skipComputed_unplaced,
    skipAction_unplaced, skipGroup_unplaced, Lexeme.token_unplaced]
  rw [← unplaced_cons, skipGroup_unplaced]
  split
  case h_2 =>
    rw [apply_ite (Prod.map id unplaced)]
    rfl
  case h_4 => simp
  case h_17 =>
    rw [apply_ite (Prod.map id unplaced), apply_ite (Prod.map id unplaced)]
    rfl
  all_goals rfl

theorem modifiers_unplaced (c : Clause) : column.modifiers c.unplaced = column.modifiers c := by
  fun_induction modifiers column c with
  | case1 => rw [unplaced_nil, modifiers]
  | case2 column l rest ih =>
      rw [unplaced_cons, modifiers, modifier_unplaced]
      exact ih

/-- A column definition says the same wherever it stands. -/
theorem ofClause_unplaced (c : Clause) : ofClause c.unplaced = ofClause c := by
  cases c with
  | nil => rfl
  | cons l rest =>
      rw [unplaced_cons, ofClause, ofClause, Lexeme.name?_unplaced, run_unplaced]
      cases l.name? with
      | none => rfl
      | some name =>
          simp only [Prod.map, isEmpty_unplaced, text_unplaced, modifiers_unplaced]

end Column

/-! ## Constraints -/

namespace TableConstraint

open Clause

theorem columnGroup_unplaced (c : Clause) :
    columnGroup c.unplaced = (columnGroup c).map id unplaced := by
  rw [columnGroup, columnGroup, group?_unplaced]
  cases group? c with
  | none => rfl
  | some group => simp

@[simp] theorem toGroup_unplaced (c : Clause) : toGroup c.unplaced = unplaced (toGroup c) := by
  rw [toGroup, toGroup, startsGroup_unplaced, drop_unplaced]
  split
  · rfl
  · rfl

@[simp] theorem indexColumnsFollow_unplaced (c : Clause) :
    indexColumnsFollow c.unplaced = indexColumnsFollow c := by
  match c with
  | [] => rfl
  | [l] => rfl
  | [l, m] => rfl
  | l :: m :: n :: rest => rfl

@[simp] theorem isIgnored_unplaced (c : Clause) : isIgnored c.unplaced = isIgnored c := by
  cases c with
  | nil => rfl
  | cons l rest =>
      simp only [unplaced_cons, isIgnored, Lexeme.keyword?_unplaced, startsGroup_unplaced,
        skipAny_unplaced, indexColumnsFollow_unplaced, startsWith_unplaced, tableName?_unplaced]
      cases tableName? rest with
      | none => rfl
      | some pair => simp

theorem foreignTarget_unplaced (rest : Clause) :
    foreignTarget rest.unplaced = foreignTarget rest := by
  rw [foreignTarget, foreignTarget, after?_unplaced]
  cases after? [.references] rest with
  | none => rfl
  | some rest =>
      simp only [Option.map_some, tableName?_unplaced]
      cases tableName? rest with
      | none => simp [columnGroup_unplaced]
      | some pair => simp [columnGroup_unplaced]

theorem body?_unplaced (c : Clause) : body? c.unplaced = body? c := by
  simp only [body?, after?_unplaced]
  cases after? [.primary, .key] c with
  | some rest => simp [columnGroup_unplaced]
  | none =>
      cases after? [.foreign, .key] c with
      | some rest => simp [columnGroup_unplaced, foreignTarget_unplaced]
      | none =>
          cases after? [.unique] c with
          | some rest => simp [columnGroup_unplaced]
          | none => rfl

theorem afterName_unplaced (rest : Clause) : afterName rest.unplaced = unplaced (afterName rest) := by
  rw [afterName, afterName, startsWithAny_unplaced, drop_unplaced]
  split
  · rfl
  · rfl

/-- A clause states the same constraint wherever it stands. -/
theorem ofClause?_unplaced (c : Clause) : ofClause? c.unplaced = ofClause? c := by
  rw [ofClause?, ofClause?, after?_unplaced, body?_unplaced, isIgnored_unplaced]
  cases after? [.constraint] c with
  | none => rfl
  | some rest => simp only [Option.map_some, afterName_unplaced, body?_unplaced]

end TableConstraint

/-! ## Statements -/

theorem tableHeader_unplaced (c : Clause) :
    tableHeader c.unplaced = (tableHeader c).map (Prod.map id Clause.unplaced) := by
  rw [tableHeader, tableHeader, Clause.skip_unplaced, Clause.tableName?_unplaced]
  cases Clause.tableName? (Clause.skip [.ifWord, .notWord, .existsWord] c) with
  | none => rfl
  | some pair =>
      obtain ⟨name, rest⟩ := pair
      cases rest with
      | nil => rfl
      | cons l rest =>
          simp only [Option.map_some, Prod.map, id, Clause.unplaced_cons, Lexeme.token_unplaced,
            Clause.closeGroup?_unplaced]
          split
          · cases Clause.closeGroup? 0 rest with
            | none => rfl
            | some group =>
                obtain ⟨body, rest⟩ := group
                cases body with
                | nil => rfl
                | cons m body => rfl
          · rfl

end Ddl

end EntityRelation
