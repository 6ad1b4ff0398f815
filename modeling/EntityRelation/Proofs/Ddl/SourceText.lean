import EntityRelation.Ddl.Import
import EntityRelation.Proofs.Ddl.Lexed
import Mathlib.Data.List.Basic

/-!
# Every lexeme covers some text

The lexemes that a script is read into cover at least one character each. The parts that a script
is cut into hold no other lexemes than the script itself, so a column type that has been read is a
text that is not empty (`Column.dataType_ne_of_ofClause`).
-/

namespace EntityRelation

namespace Ddl

namespace Clause

variable {c : Clause}

/-- Every lexeme of the clause covers some text. -/
def Worded (c : Clause) : Prop :=
  ∀ l ∈ c, l.text ≠ ""

theorem Worded.of_subset {d : Clause} (h : c.Worded) (hsub : d ⊆ c) : d.Worded :=
  fun l hl => h l (hsub hl)

theorem Worded.text_ne (h : c.Worded) (hne : c ≠ []) : c.text ≠ "" := by
  cases c with
  | nil => exact absurd rfl hne
  | cons l rest =>
      rw [text]
      intro heq
      exact h l List.mem_cons_self (String.append_eq_empty_iff.1 heq).1

/-! ## Parts of a clause -/

theorem closeGroup?_subset {inner rest : Clause} {depth : Nat}
    (h : closeGroup? depth c = some (inner, rest)) : inner ⊆ c := by
  induction c generalizing depth inner rest with
  | nil => simp [closeGroup?] at h
  | cons l more ih =>
      simp only [closeGroup?] at h
      split at h
      · obtain ⟨rfl, -⟩ := by simpa using h
        exact List.nil_subset _
      all_goals
        simp only [Option.map_eq_some_iff, Prod.mk.injEq] at h
        obtain ⟨⟨i, r⟩, hr, rfl, -⟩ := h
        exact List.cons_subset_cons l (ih hr)

theorem splitFrom_subset {part before : Clause} {depth : Nat}
    (h : part ∈ splitFrom before depth c) : part ⊆ before ++ c := by
  induction c generalizing before depth with
  | nil =>
      obtain rfl := List.mem_singleton.1 h
      simp
  | cons l rest ih =>
      have hmoved : ∀ {depth : Nat}, part ∈ splitFrom (l :: before) depth rest →
          part ⊆ before ++ l :: rest := by
        intro depth hpart l' hl'
        have hmem := ih hpart hl'
        simp only [List.mem_append, List.mem_cons] at hmem ⊢
        tauto
      simp only [splitFrom] at h
      split at h
      · rcases List.mem_cons.1 h with rfl | hrest
        · simp
        · intro l' hl'
          have hmem := ih hrest hl'
          simp only [List.mem_append, List.mem_cons, List.not_mem_nil, false_or] at hmem ⊢
          tauto
      · exact hmoved h
      · exact hmoved h
      · exact hmoved h

theorem splitTopLevel_subset {part : Clause} (h : part ∈ c.splitTopLevel) : part ⊆ c := by
  have hsub := splitFrom_subset (List.mem_filter.1 h).1
  simpa using hsub

theorem run_subset (depth : Nat) (c : Clause) : (run depth c).1 ⊆ c := by
  fun_induction run depth c with
  | case1 => exact List.nil_subset _
  | case2 _ l rest _ ih => exact List.cons_subset_cons l ih
  | case3 _ l rest _ ih => exact List.cons_subset_cons l ih
  | case4 => exact List.nil_subset _
  | case5 _ l rest _ _ _ ih => exact List.cons_subset_cons l ih

end Clause

/-- A table body holds no lexeme that its definition does not hold. -/
theorem tableHeader_subset {c body : Clause} {name : String}
    (h : tableHeader c = .ok (name, body)) : body ⊆ c := by
  rw [tableHeader] at h
  split at h
  · cases h
  · next rest hname =>
    have hrest := ((Clause.tableName?_suffix hname).trans (Clause.skip_suffix _ c)).subset
    split at h
    · cases h
    · next l more =>
      split at h
      · split at h
        · cases h
        · cases h
        · next hclose =>
          obtain ⟨-, rfl⟩ := Prod.mk.inj (Except.ok.inj h)
          exact fun l' hl' =>
            hrest (List.mem_cons_of_mem l (Clause.closeGroup?_subset hclose hl'))
      · cases h

/-! ## Columns -/

namespace Column

/-- No modifier changes the type of a column. -/
theorem dataType_modifier (column : Column) (l : Lexeme) (rest : Clause) :
    (column.modifier l rest).1.dataType = column.dataType := by
  have hreference : (column.readReference rest).1.dataType = column.dataType := by
    rw [readReference]
    split
    · rfl
    · split
      · rfl
      · rfl
  have hgenerated : (column.readGenerated rest).1.dataType = column.dataType := by
    rw [readGenerated]
    dsimp only
    split
    · rfl
    · dsimp only
      split
      · rfl
      · rfl
  have hdefault : (column.withDefault (Clause.defaultRun rest).1.text).dataType =
      column.dataType := by
    rw [withDefault]
    split
    · rfl
    · rfl
  unfold modifier
  split
  case h_2 =>
    split
    · rfl
    · rfl
  case h_17 =>
    split
    · rfl
    · split
      · rfl
      · rfl
  all_goals first
    | rfl
    | exact hreference
    | exact hgenerated
    | exact hdefault

theorem dataType_modifiers (column : Column) (c : Clause) :
    (modifiers column c).dataType = column.dataType := by
  fun_induction modifiers column c with
  | case1 => rfl
  | case2 column l rest ih => exact ih.trans (dataType_modifier column l rest)

theorem dataType_ne_of_ofClause {c : Clause} {column : Column} (hc : c.Worded)
    (h : ofClause c = .ok column) : column.dataType ≠ "" := by
  cases c with
  | nil => cases h
  | cons l rest =>
      rw [ofClause] at h
      split at h
      · cases h
      · dsimp only at h
        split at h
        · cases h
        · next htype =>
          obtain rfl := Except.ok.inj h
          rw [dataType_modifiers]
          refine Clause.Worded.text_ne (hc.of_subset fun l' hl' => ?_) (by simpa using htype)
          exact List.mem_cons_of_mem l (Clause.run_subset 0 rest hl')

theorem storedType_ne {column : Column} (h : column.dataType ≠ "") : column.storedType ≠ "" := by
  rw [storedType]
  split
  · split
    · next kind _ =>
      cases kind with
      | serial => decide
      | bigSerial => decide
    · exact h
  · exact h

end Column

/-! ## Statements -/

theorem Lexer.worded_lexemesFrom {place : Source.Place} {afterWord spaced : Bool}
    {cs : List Char} {ls : Clause} (h : lexemesFrom place afterWord spaced cs = .ok ls) :
    ls.Worded := by
  induction Lexed.of_lexemesFrom h with
  | nil => exact fun l hl => absurd hl List.not_mem_nil
  | gap _ more ih => exact ih more.lexemesFrom_eq
  | token _ more ih =>
      refine List.forall_mem_cons.2 ⟨fun hempty => ?_, ih more.lexemesFrom_eq⟩
      simpa using congrArg String.toList hempty

namespace Statement

theorem collect_subset {s : Statement} {lexemes comments ls : List Lexeme}
    (h : s ∈ collect lexemes comments ls) : s.lexemes ⊆ lexemes ++ ls := by
  induction ls generalizing lexemes comments with
  | nil =>
      rw [collect] at h
      split at h
      · cases h
      · obtain rfl := List.mem_singleton.1 h
        simp
  | cons l rest ih =>
      have hfresh : ∀ {comments : List Lexeme}, s ∈ collect [] comments rest →
          s.lexemes ⊆ lexemes ++ l :: rest := by
        intro comments hs l' hl'
        exact List.mem_append_right _ (List.mem_cons_of_mem l (ih hs hl'))
      have hsame : ∀ {comments : List Lexeme}, s ∈ collect lexemes comments rest →
          s.lexemes ⊆ lexemes ++ l :: rest := by
        intro comments hs l' hl'
        rcases List.mem_append.1 (ih hs hl') with hmem | hmem
        · exact List.mem_append_left _ hmem
        · exact List.mem_append_right _ (List.mem_cons_of_mem l hmem)
      simp only [collect] at h
      split at h
      · split at h
        · exact hfresh h
        · rcases List.mem_cons.1 h with rfl | hrest
          · intro l' hl'
            exact List.mem_append_left _ (List.mem_reverse.1 hl')
          · exact hfresh hrest
      · split at h
        · exact hfresh h
        · exact hsame h
      · intro l' hl'
        have hmem := ih h hl'
        simp only [List.mem_append, List.mem_cons] at hmem ⊢
        tauto

/-- The statements of a script hold no other lexemes than the script. -/
theorem ofLexemes_subset {s : Statement} {ls : List Lexeme} (h : s ∈ ofLexemes ls) :
    s.lexemes ⊆ ls :=
  collect_subset h

/-- What follows the words that announce a table is part of the statement. -/
theorem createTable_subset {s : Statement} {rest : Clause} (h : s.kind = .createTable rest) :
    rest ⊆ s.lexemes := by
  rw [kind] at h
  split at h
  · next after hcreate =>
    split at h
    · next rest' htable =>
      obtain rfl := StatementKind.createTable.inj h
      exact (((Clause.after?_suffix htable).trans (List.dropWhile_suffix _)).trans
        ((Clause.skip_suffix _ _).trans (Clause.after?_suffix hcreate))).subset
    · cases h
  · split at h
    · cases h
    · cases h

theorem alterTable_subset {s : Statement} {rest : Clause} (h : s.kind = .alterTable rest) :
    rest ⊆ s.lexemes := by
  rw [kind] at h
  split at h
  · split at h
    · cases h
    · cases h
  · split at h
    · next halter =>
      obtain rfl := StatementKind.alterTable.inj h
      exact (Clause.after?_suffix halter).subset
    · cases h

end Statement

end Ddl

end EntityRelation
