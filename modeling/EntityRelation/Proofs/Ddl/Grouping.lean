import EntityRelation.Ddl.Column
import Mathlib.Tactic.Common

/-!
# Clauses that keep to their groups

A clause in which the parentheses match passes through the readers of clauses as a whole: the group
around it closes after it, it is not cut unless a comma stands outside its groups, and a run of
lexemes takes all of it unless a modifier stands outside its groups. All of this depends on the
tokens of the clause alone.
-/

namespace EntityRelation

namespace Ddl

namespace Clause

/-- Whether the parentheses match when `depth` groups are open already. -/
def isBalanced (depth : Nat) : Clause → Bool
  | [] => depth = 0
  | l :: rest =>
    if l.token = .leftParen then isBalanced (depth + 1) rest
    else if l.token = .rightParen then 0 < depth && isBalanced (depth - 1) rest
    else isBalanced depth rest

/-- What holds of every part of the clause that starts at a lexeme outside all groups and goes on
to the end, when `depth` groups are open already. -/
def Outside (p : Clause → Prop) (depth : Nat) : Clause → Prop
  | [] => True
  | l :: rest =>
    if l.token = .leftParen then Outside p (depth + 1) rest
    else if l.token = .rightParen then Outside p (depth - 1) rest
    else (depth = 0 → p (l :: rest)) ∧ Outside p depth rest

instance Outside.decidable (p : Clause → Prop) [DecidablePred p] :
    (depth : Nat) → (c : Clause) → Decidable (c.Outside p depth)
  | _, [] => inferInstanceAs (Decidable True)
  | depth, l :: rest =>
    have := Outside.decidable p (depth + 1) rest
    have := Outside.decidable p (depth - 1) rest
    have := Outside.decidable p depth rest
    inferInstanceAs (Decidable (if l.token = .leftParen then Outside p (depth + 1) rest
      else if l.token = .rightParen then Outside p (depth - 1) rest
      else (depth = 0 → p (l :: rest)) ∧ Outside p depth rest))

/-- The clause does not start with a comma. -/
def NoComma (c : Clause) : Prop :=
  ∀ l ∈ c.head?, l.token ≠ .comma

instance : DecidablePred NoComma :=
  fun c => inferInstanceAs (Decidable (∀ l ∈ c.head?, l.token ≠ .comma))

/-- The clause does not start with a modifier. -/
def NoModifier (c : Clause) : Prop :=
  c.startsModifier = false

instance : DecidablePred NoModifier :=
  fun c => inferInstanceAs (Decidable (c.startsModifier = false))

/-! ## The readers at one lexeme -/

variable {l : Lexeme} {rest : Clause} {depth : Nat}

theorem token_cases (l : Lexeme) :
    l.token = .leftParen ∨ l.token = .rightParen ∨
      (l.token ≠ .leftParen ∧ l.token ≠ .rightParen) := by
  tauto

theorem closeGroup?_left (h : l.token = .leftParen) :
    closeGroup? depth (l :: rest) =
      (closeGroup? (depth + 1) rest).map fun (inner, rest) => (l :: inner, rest) := by
  simp [closeGroup?, h]

theorem closeGroup?_right_zero (h : l.token = .rightParen) :
    closeGroup? 0 (l :: rest) = some ([], rest) := by
  simp [closeGroup?, h]

theorem closeGroup?_right_succ (h : l.token = .rightParen) :
    closeGroup? (depth + 1) (l :: rest) =
      (closeGroup? depth rest).map fun (inner, rest) => (l :: inner, rest) := by
  simp [closeGroup?, h]

theorem closeGroup?_other (h : l.token ≠ .leftParen ∧ l.token ≠ .rightParen) :
    closeGroup? depth (l :: rest) =
      (closeGroup? depth rest).map fun (inner, rest) => (l :: inner, rest) := by
  simp only [closeGroup?]
  split
  · next htoken => exact absurd htoken h.2
  · next htoken => exact absurd htoken h.2
  · next htoken => exact absurd htoken h.1
  · rfl

theorem splitFrom_comma {before : Clause} (h : l.token = .comma) :
    splitFrom before 0 (l :: rest) = before.reverse :: splitFrom [] 0 rest := by
  simp [splitFrom, h]

theorem splitFrom_left {before : Clause} (h : l.token = .leftParen) :
    splitFrom before depth (l :: rest) = splitFrom (l :: before) (depth + 1) rest := by
  simp [splitFrom, h]

theorem splitFrom_right {before : Clause} (h : l.token = .rightParen) :
    splitFrom before depth (l :: rest) = splitFrom (l :: before) (depth - 1) rest := by
  simp [splitFrom, h]

theorem splitFrom_other {before : Clause} (h : l.token ≠ .leftParen ∧ l.token ≠ .rightParen)
    (hcomma : depth = 0 → l.token ≠ .comma) :
    splitFrom before depth (l :: rest) = splitFrom (l :: before) depth rest := by
  simp only [splitFrom]
  split
  · next htoken => exact absurd htoken (hcomma rfl)
  · next htoken => exact absurd htoken h.1
  · next htoken => exact absurd htoken h.2
  · rfl

theorem run_left (h : l.token = .leftParen) :
    run depth (l :: rest) = (l :: (run (depth + 1) rest).1, (run (depth + 1) rest).2) := by
  simp [run, h, Prod.map]

theorem run_right (h : l.token = .rightParen) :
    run depth (l :: rest) = (l :: (run (depth - 1) rest).1, (run (depth - 1) rest).2) := by
  simp [run, h, Prod.map]

theorem run_other (h : l.token ≠ .leftParen ∧ l.token ≠ .rightParen)
    (hmodifier : depth = 0 → startsModifier (l :: rest) = false) :
    run depth (l :: rest) = (l :: (run depth rest).1, (run depth rest).2) := by
  simp only [run]
  split
  · next htoken => exact absurd htoken h.1
  · next htoken => exact absurd htoken h.2
  · rw [if_neg]
    · rfl
    · simpa using hmodifier

theorem run_modifier (h : l.token ≠ .leftParen ∧ l.token ≠ .rightParen)
    (hmodifier : startsModifier (l :: rest) = true) : run 0 (l :: rest) = ([], l :: rest) := by
  simp only [run]
  split
  · next htoken => exact absurd htoken h.1
  · next htoken => exact absurd htoken h.2
  · rw [if_pos]
    simpa using hmodifier

/-! ## Balanced clauses as a whole -/

theorem closeGroup?_append (k : Nat) {a : Clause} (h : isBalanced depth a = true) (b : Clause) :
    closeGroup? (k + depth) (a ++ b) = (closeGroup? k b).map fun (inner, rest) => (a ++ inner, rest) := by
  induction a generalizing depth with
  | nil =>
      obtain rfl : depth = 0 := by simpa [isBalanced] using h
      simp
  | cons l a ih =>
      rw [isBalanced] at h
      rw [List.cons_append]
      rcases token_cases l with hleft | hright | hother
      · rw [if_pos hleft] at h
        rw [closeGroup?_left hleft, Nat.add_assoc, ih h, Option.map_map]
        rfl
      · rw [if_neg (by simp [hright]), if_pos hright, Bool.and_eq_true, decide_eq_true_eq] at h
        obtain ⟨d, rfl⟩ : ∃ d, depth = d + 1 := ⟨depth - 1, by omega⟩
        rw [Nat.add_sub_cancel] at h
        rw [← Nat.add_assoc, closeGroup?_right_succ hright, ih h.2, Option.map_map]
        rfl
      · rw [if_neg hother.1, if_neg hother.2] at h
        rw [closeGroup?_other hother, ih h, Option.map_map]
        rfl

/-- A group around a balanced clause closes after it. -/
theorem closeGroup?_of_isBalanced {a : Clause} (h : isBalanced 0 a = true)
    (hclose : l.token = .rightParen) (rest : Clause) :
    closeGroup? 0 (a ++ l :: rest) = some (a, rest) := by
  have happend := closeGroup?_append 0 h (l :: rest)
  rw [closeGroup?_right_zero hclose] at happend
  simpa using happend

/-- A group around a balanced clause, and what follows the group. -/
theorem group?_delimited {left right : Lexeme} (hleft : left.token = .leftParen)
    (hright : right.token = .rightParen) {c : Clause} (hc : isBalanced 0 c = true)
    (rest : Clause) : group? (left :: c ++ [right] ++ rest) = some (c, rest) := by
  have hclose := closeGroup?_of_isBalanced hc hright rest
  rw [List.append_assoc, List.cons_append, group?, if_pos hleft, List.singleton_append, hclose]
  rfl

theorem isBalanced_append (k : Nat) {a : Clause} (h : isBalanced depth a = true) (b : Clause) :
    isBalanced (k + depth) (a ++ b) = isBalanced k b := by
  induction a generalizing depth with
  | nil =>
      obtain rfl : depth = 0 := by simpa [isBalanced] using h
      rfl
  | cons l a ih =>
      rw [isBalanced] at h
      rw [List.cons_append, isBalanced]
      rcases token_cases l with hleft | hright | hother
      · rw [if_pos hleft] at h ⊢
        exact ih h
      · rw [if_neg (by simp [hright]), if_pos hright] at h ⊢
        rw [Bool.and_eq_true, decide_eq_true_eq] at h
        rw [Nat.add_sub_assoc h.1, ih h.2, decide_eq_true (by omega), Bool.true_and]
      · rw [if_neg hother.1, if_neg hother.2] at h ⊢
        exact ih h

/-- A balanced clause without commas outside its groups is not cut. -/
theorem splitFrom_append {before a : Clause} (h : isBalanced depth a = true)
    (hcomma : Outside NoComma depth a) (b : Clause) :
    splitFrom before depth (a ++ b) = splitFrom (a.reverse ++ before) 0 b := by
  induction a generalizing depth before with
  | nil =>
      obtain rfl : depth = 0 := by simpa [isBalanced] using h
      rfl
  | cons l a ih =>
      rw [isBalanced] at h
      rw [Outside] at hcomma
      rw [List.cons_append, List.reverse_cons, List.append_assoc, List.singleton_append]
      rcases token_cases l with hleft | hright | hother
      · rw [if_pos hleft] at h hcomma
        rw [splitFrom_left hleft, ih h hcomma]
      · rw [if_neg (by simp [hright]), if_pos hright] at h hcomma
        rw [Bool.and_eq_true] at h
        rw [splitFrom_right hright, ih h.2 hcomma]
      · rw [if_neg hother.1, if_neg hother.2] at h hcomma
        rw [splitFrom_other hother fun hzero => hcomma.1 hzero l rfl, ih h hcomma.2]

theorem startsModifier_append {a b : Clause} (ha : a ≠ []) (h : startsModifier a = false)
    (hset : startsWith .setWord b = false) : startsModifier (a ++ b) = false := by
  cases a with
  | nil => exact absurd rfl ha
  | cons l a =>
      rw [startsModifier, Bool.or_eq_false_iff] at h
      rw [List.cons_append, startsModifier, h.1, Bool.false_or]
      cases a with
      | nil => rw [List.nil_append, hset, Bool.and_false]
      | cons m a => exact h.2

/-- A run goes through a balanced clause without modifiers outside its groups. -/
theorem run_append {a b : Clause} (h : isBalanced depth a = true)
    (hmodifier : Outside NoModifier depth a) (hset : startsWith .setWord b = false) :
    run depth (a ++ b) = (a ++ (run 0 b).1, (run 0 b).2) := by
  induction a generalizing depth with
  | nil =>
      obtain rfl : depth = 0 := by simpa [isBalanced] using h
      rfl
  | cons l a ih =>
      rw [isBalanced] at h
      rw [Outside] at hmodifier
      rw [List.cons_append]
      rcases token_cases l with hleft | hright | hother
      · rw [if_pos hleft] at h hmodifier
        rw [run_left hleft, ih h hmodifier]
        rfl
      · rw [if_neg (by simp [hright]), if_pos hright] at h hmodifier
        rw [Bool.and_eq_true] at h
        rw [run_right hright, ih h.2 hmodifier]
        rfl
      · rw [if_neg hother.1, if_neg hother.2] at h hmodifier
        have hstart : depth = 0 → startsModifier (l :: (a ++ b)) = false := fun hzero =>
          startsModifier_append (List.cons_ne_nil l a) (hmodifier.1 hzero) hset
        rw [run_other hother hstart, ih h hmodifier.2]
        rfl

/-! ## Clauses of the same tokens -/

variable {c c' : Clause}

theorem isBalanced_congr (h : c.map Lexeme.token = c'.map Lexeme.token) :
    isBalanced depth c = isBalanced depth c' := by
  induction c generalizing depth c' with
  | nil =>
      cases c' with
      | nil => rfl
      | cons => simp at h
  | cons l c ih =>
      cases c' with
      | nil => simp at h
      | cons l' c' =>
          rw [List.map_cons, List.map_cons, List.cons.injEq] at h
          simp only [isBalanced, h.1, ih h.2]

theorem forall_token_congr {p : Token → Prop} (h : c.map Lexeme.token = c'.map Lexeme.token)
    (hc : ∀ l ∈ c', p l.token) : ∀ l ∈ c, p l.token := by
  intro l hl
  have hmem : l.token ∈ c'.map Lexeme.token := h ▸ List.mem_map_of_mem hl
  obtain ⟨m, hm, heq⟩ := List.mem_map.1 hmem
  rw [← heq]
  exact hc m hm

theorem isKeyword_congr {l l' : Lexeme} (h : l.token = l'.token) :
    l.isKeyword = l'.isKeyword := by
  funext k
  rw [Lexeme.isKeyword, Lexeme.isKeyword, Lexeme.keyword?, Lexeme.keyword?, h]

theorem startsWith_congr (h : c.map Lexeme.token = c'.map Lexeme.token) (k : Keyword) :
    startsWith k c = startsWith k c' := by
  cases c with
  | nil =>
      cases c' with
      | nil => rfl
      | cons => simp at h
  | cons l c =>
      cases c' with
      | nil => simp at h
      | cons l' c' =>
          rw [List.map_cons, List.map_cons, List.cons.injEq] at h
          exact congrFun (isKeyword_congr h.1) k

theorem startsModifier_congr (h : c.map Lexeme.token = c'.map Lexeme.token) :
    startsModifier c = startsModifier c' := by
  cases c with
  | nil =>
      cases c' with
      | nil => rfl
      | cons => simp at h
  | cons l c =>
      cases c' with
      | nil => simp at h
      | cons l' c' =>
          rw [List.map_cons, List.map_cons, List.cons.injEq] at h
          rw [startsModifier, startsModifier, Lexeme.isAny, Lexeme.isAny, isKeyword_congr h.1,
            startsWith_congr h.2]

theorem Outside.congr {p : Clause → Prop}
    (hp : ∀ {a b : Clause}, a.map Lexeme.token = b.map Lexeme.token → p a → p b)
    (h : c.map Lexeme.token = c'.map Lexeme.token) (hc : Outside p depth c) :
    Outside p depth c' := by
  induction c generalizing depth c' with
  | nil =>
      cases c' with
      | nil => trivial
      | cons => simp at h
  | cons l c ih =>
      cases c' with
      | nil => simp at h
      | cons l' c' =>
          have hcons := h
          rw [List.map_cons, List.map_cons, List.cons.injEq] at hcons
          rw [Outside, hcons.1] at hc
          rw [Outside]
          by_cases hleft : l'.token = .leftParen
          · rw [if_pos hleft] at hc ⊢
            exact ih hcons.2 hc
          · by_cases hright : l'.token = .rightParen
            · rw [if_neg hleft, if_pos hright] at hc ⊢
              exact ih hcons.2 hc
            · rw [if_neg hleft, if_neg hright] at hc ⊢
              exact ⟨fun hzero => hp h (hc.1 hzero), ih hcons.2 hc.2⟩

theorem NoComma.congr (h : c.map Lexeme.token = c'.map Lexeme.token) (hc : NoComma c) :
    NoComma c' := by
  cases c with
  | nil =>
      cases c' with
      | nil => exact hc
      | cons => simp at h
  | cons l c =>
      cases c' with
      | nil => simp at h
      | cons l' c' =>
          rw [List.map_cons, List.map_cons, List.cons.injEq] at h
          intro m hm
          obtain rfl := Option.some.inj hm
          rw [← h.1]
          exact hc l rfl

theorem NoModifier.congr (h : c.map Lexeme.token = c'.map Lexeme.token) (hc : NoModifier c) :
    NoModifier c' := by
  rw [NoModifier, ← startsModifier_congr h]
  exact hc

end Clause

end Ddl

end EntityRelation
