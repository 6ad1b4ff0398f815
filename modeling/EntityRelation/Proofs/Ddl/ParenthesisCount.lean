import EntityRelation.Proofs.Ddl.CursorSteps
import Mathlib.Order.Bounds.Basic

/-!
# Counting parentheses

Parentheses match when no beginning of a clause closes more groups than it opens and the whole
clause closes all of them (`Balanced`), and this is what a scan of the clause with the number of
open groups decides (`balanced_iff`). The end of a group can be told by counting too: it is the
first position behind the opening parenthesis up to which as many groups are closed as opened
(`exists_closing`).
-/

namespace EntityRelation

namespace Ddl

namespace Clause

/-- How many groups the parentheses of the clause open. -/
def opened (c : Clause) : Nat :=
  c.countP (·.token == .leftParen)

/-- How many groups the parentheses of the clause close. -/
def closed (c : Clause) : Nat :=
  c.countP (·.token == .rightParen)

/-- No beginning of the clause closes more groups than it opens, and the clause closes as many as
it opens. -/
structure Balanced (c : Clause) : Prop where
  closed_take_le : ∀ n, closed (c.take n) ≤ opened (c.take n)
  closed_eq : c.closed = c.opened

/-- From the lexeme at `start` up to the one at `stop`, which comes later, as many groups are
closed as opened. -/
structure LevelAt (c : Clause) (start stop : Nat) : Prop where
  start_lt : start < stop
  stop_lt : stop < c.length
  closed_eq : closed (c.extract start (stop + 1)) = opened (c.extract start (stop + 1))

variable {c inner lexemes rest : Clause} {l : Lexeme} {depth start stop : Nat}

@[simp] theorem opened_nil : opened [] = 0 := rfl

@[simp] theorem closed_nil : closed [] = 0 := rfl

@[simp] theorem opened_append (a b : Clause) : opened (a ++ b) = opened a + opened b :=
  List.countP_append

@[simp] theorem closed_append (a b : Clause) : closed (a ++ b) = closed a + closed b :=
  List.countP_append

theorem opened_cons_left (h : l.token = .leftParen) : opened (l :: c) = opened c + 1 :=
  List.countP_cons_of_pos (beq_iff_eq.2 h)

theorem opened_cons_of_ne (h : l.token ≠ .leftParen) : opened (l :: c) = opened c :=
  List.countP_cons_of_neg fun heq => h (beq_iff_eq.1 heq)

theorem closed_cons_right (h : l.token = .rightParen) : closed (l :: c) = closed c + 1 :=
  List.countP_cons_of_pos (beq_iff_eq.2 h)

theorem closed_cons_of_ne (h : l.token ≠ .rightParen) : closed (l :: c) = closed c :=
  List.countP_cons_of_neg fun heq => h (beq_iff_eq.1 heq)

/-- Where `depth` groups are open already, a clause may close as many more than it opens. -/
theorem isBalanced_iff : isBalanced depth c = true ↔
    (∀ n, closed (c.take n) ≤ opened (c.take n) + depth) ∧ c.closed = c.opened + depth := by
  induction c generalizing depth with
  | nil => simp [isBalanced, eq_comm]
  | cons l c ih =>
      rw [isBalanced, ← Nat.and_forall_add_one]
      simp only [List.take_zero, List.take_succ_cons, closed_nil, Nat.zero_le, true_and]
      rcases token_cases l with hleft | hright | hother
      · have hne : l.token ≠ .rightParen := by simp [hleft]
        have hmove : ∀ k, k + 1 + depth = k + (depth + 1) := by omega
        simp only [if_pos hleft, ih, opened_cons_left hleft, closed_cons_of_ne hne, hmove]
      · have hne : l.token ≠ .leftParen := by simp [hright]
        rw [if_neg hne, if_pos hright, Bool.and_eq_true, decide_eq_true_eq, ih]
        simp only [opened_cons_of_ne hne, closed_cons_right hright]
        cases depth with
        | zero =>
            refine ⟨fun h => absurd h.1 (Nat.lt_irrefl 0), fun h => ?_⟩
            exact absurd (h.1 0) (Nat.not_succ_le_zero _)
        | succ depth => simp [← Nat.add_assoc]
      · simp only [if_neg hother.1, if_neg hother.2, ih, opened_cons_of_ne hother.1,
          closed_cons_of_ne hother.2]

theorem balanced_iff : c.Balanced ↔ c.isBalanced 0 = true := by
  rw [isBalanced_iff]
  exact ⟨fun h => ⟨h.closed_take_le, h.closed_eq⟩, fun h => ⟨h.1, h.2⟩⟩

/-! ## The end of a group -/

/-- Where the search finds no end, no beginning of the clause closes more groups than are open. -/
theorem closed_take_le_of_closeGroup? (h : closeGroup? depth c = none) (n : Nat) :
    closed (c.take n) ≤ opened (c.take n) + depth := by
  induction c generalizing depth n with
  | nil => simp
  | cons l c ih =>
      cases n with
      | zero => simp
      | succ n =>
          rw [List.take_succ_cons]
          rcases token_cases l with hleft | hright | hother
          · have hne : l.token ≠ .rightParen := by simp [hleft]
            rw [closeGroup?_left hleft, Option.map_eq_none_iff] at h
            rw [opened_cons_left hleft, closed_cons_of_ne hne, Nat.add_right_comm, Nat.add_assoc]
            exact ih h n
          · have hne : l.token ≠ .leftParen := by simp [hright]
            cases depth with
            | zero =>
                rw [closeGroup?_right_zero hright] at h
                cases h
            | succ depth =>
                rw [closeGroup?_right_succ hright, Option.map_eq_none_iff] at h
                rw [opened_cons_of_ne hne, closed_cons_right hright, ← Nat.add_assoc]
                exact Nat.add_le_add_right (ih h n) 1
          · rw [closeGroup?_other hother, Option.map_eq_none_iff] at h
            rw [opened_cons_of_ne hother.1, closed_cons_of_ne hother.2]
            exact ih h n

theorem extract_eq_cons (hstart : start < lexemes.length) (n : Nat) :
    lexemes.extract start (start + 1 + n) =
      lexemes[start] :: (lexemes.drop (start + 1)).take n := by
  have hlength : start + 1 + n - start = n + 1 := by omega
  rw [List.extract_eq_take_drop, hlength, List.drop_eq_getElem_cons hstart, List.take_succ_cons]

section OpeningParenthesis

variable (hstart : start < lexemes.length) (hl : lexemes[start].token = .leftParen)

include hstart hl

/-- The counts from an opening parenthesis on are level where, behind it, one group more has been
closed than opened. -/
theorem levelAt_iff : lexemes.LevelAt start stop ↔
    ∃ n, stop = start + 1 + n ∧ n < (lexemes.drop (start + 1)).length ∧
      closed ((lexemes.drop (start + 1)).take (n + 1)) =
        opened ((lexemes.drop (start + 1)).take (n + 1)) + 1 := by
  have hne : lexemes[start].token ≠ .rightParen := by simp [hl]
  have hcounts : ∀ n, closed (lexemes.extract start (start + 1 + n + 1)) =
      opened (lexemes.extract start (start + 1 + n + 1)) ↔
      closed ((lexemes.drop (start + 1)).take (n + 1)) =
        opened ((lexemes.drop (start + 1)).take (n + 1)) + 1 := fun n => by
    rw [Nat.add_assoc _ n, extract_eq_cons hstart, closed_cons_of_ne hne, opened_cons_left hl]
  simp only [List.length_drop]
  constructor
  · rintro ⟨hlt, hstop, hlevel⟩
    obtain ⟨n, rfl⟩ : ∃ n, stop = start + 1 + n := ⟨stop - (start + 1), by omega⟩
    exact ⟨n, rfl, by omega, (hcounts n).1 hlevel⟩
  · rintro ⟨n, rfl, hlt, hlevel⟩
    exact ⟨by omega, by omega, (hcounts n).2 hlevel⟩

/-- A group closes at the first later position up to which the counts are level. -/
theorem isLeast_of_closeGroup?
    (h : closeGroup? 0 (lexemes.drop (start + 1)) = some (inner, rest)) :
    IsLeast {stop | lexemes.LevelAt start stop} (start + 1 + inner.length) := by
  obtain ⟨hinner, right, hright, hc⟩ := eq_append_of_closeGroup? h
  have hbalanced := isBalanced_iff.1 hinner
  constructor
  · refine (levelAt_iff hstart hl).2 ⟨inner.length, rfl, by simp [hc], ?_⟩
    have htake : (inner ++ right :: rest).take (inner.length + 1) = inner ++ [right] :=
      List.take_length_add_append 1
    have hne : right.token ≠ .leftParen := by simp [hright]
    rw [hc, htake, closed_append, opened_append, closed_cons_right hright, opened_cons_of_ne hne,
      hbalanced.2]
    rfl
  · intro stop hstop
    obtain ⟨n, rfl, -, hlevel⟩ := (levelAt_iff hstart hl).1 hstop
    by_contra hearlier
    -- Inside the group, no beginning closes more groups than it opens.
    have htake : (inner ++ right :: rest).take (n + 1) = inner.take (n + 1) :=
      List.take_append_of_le_length (by omega)
    have hle := hbalanced.1 (n + 1)
    rw [hc, htake] at hlevel
    omega

/-- Behind a parenthesis whose group is never closed, the counts are never level. -/
theorem not_levelAt_of_closeGroup? (h : closeGroup? 0 (lexemes.drop (start + 1)) = none)
    (stop : Nat) : ¬ lexemes.LevelAt start stop := by
  intro hstop
  obtain ⟨n, rfl, -, hlevel⟩ := (levelAt_iff hstart hl).1 hstop
  have hle := closed_take_le_of_closeGroup? h (n + 1)
  omega

/-- The search for the end of a group, begun at an opening parenthesis, finds the least later
position up to which as many groups are closed as opened, and none exactly when there is no such
position. The reader of groups cuts the clause there. -/
theorem exists_closing :
    ∃ close? : Option Nat, Walk.matchingParen lexemes start = .ok close? ∧
      closeGroup? 0 (lexemes.drop (start + 1)) =
        close?.map (fun close => (lexemes.extract (start + 1) close, lexemes.drop (close + 1))) ∧
      (∀ close, close? = some close ↔ IsLeast {stop | lexemes.LevelAt start stop} close) ∧
      (close? = none ↔ ∀ stop, ¬ lexemes.LevelAt start stop) := by
  have hmatching : Walk.matchingParen lexemes start =
      .ok ((closeGroup? 0 (lexemes.drop (start + 1))).map fun group =>
        start + 1 + group.1.length) := by
    rw [Walk.matchingParen, List.drop_eq_getElem_cons hstart, Walk.closingFrom, if_pos hl,
      Walk.closingFrom_eq]
  refine ⟨_, hmatching, ?_⟩
  cases h : closeGroup? 0 (lexemes.drop (start + 1)) with
  | none =>
      have hnever := not_levelAt_of_closeGroup? hstart hl h
      refine ⟨rfl, fun close => ?_, iff_of_true rfl hnever⟩
      exact iff_of_false (Option.some_ne_none close).symm fun hleast => hnever close hleast.1
  | some group =>
      obtain ⟨inner, rest⟩ := group
      have hleast := isLeast_of_closeGroup? hstart hl h
      obtain ⟨-, right, -, hc⟩ := eq_append_of_closeGroup? h
      refine ⟨?_, fun close => ?_, ?_⟩
      · have hbehind : start + 1 + inner.length + 1 = start + 1 + (inner.length + 1) := by omega
        rw [Option.map_some, Option.map_some, hbehind, ← List.drop_drop,
          List.extract_eq_take_drop, hc, Nat.add_sub_cancel_left, List.take_left,
          ← List.drop_drop, List.drop_left]
        rfl
      · constructor
        · intro hclose
          obtain rfl := Option.some.inj hclose
          exact hleast
        · intro hclose
          exact congrArg some (hleast.unique hclose)
      · exact iff_of_false (Option.some_ne_none _) fun hnever => hnever _ hleast.1

end OpeningParenthesis

end Clause

end Ddl

end EntityRelation
