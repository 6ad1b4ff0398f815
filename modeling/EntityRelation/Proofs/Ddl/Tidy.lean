import EntityRelation.Proofs.Ddl.Grouping
import EntityRelation.Proofs.Ddl.SourceText

/-!
# Parts of clauses whose parentheses match

The parts that a body is cut into have matching parentheses if the body has, and no comma stands
outside the groups of a part (`tidy_of_mem_splitTopLevel`). In such a part the readers of clauses
go from one place outside all groups to the next: a run ends at one (`Tidy.run_snd`), and so do
names and groups.
-/

namespace EntityRelation

namespace Ddl

namespace Clause

/-- The parentheses match when `depth` groups are open already, and something holds of what starts
at any lexeme outside all groups. -/
structure Tidy (p : Clause → Prop) (depth : Nat) (c : Clause) : Prop where
  balanced : isBalanced depth c = true
  outside : Outside p depth c

variable {p : Clause → Prop} {c rest : Clause} {l : Lexeme} {depth : Nat}

theorem Tidy.nil : Tidy p 0 [] :=
  ⟨rfl, trivial⟩

theorem tidy_left (h : l.token = .leftParen) : Tidy p depth (l :: c) ↔ Tidy p (depth + 1) c := by
  constructor
  · rintro ⟨hbalanced, houtside⟩
    rw [isBalanced, if_pos h] at hbalanced
    rw [Outside, if_pos h] at houtside
    exact ⟨hbalanced, houtside⟩
  · rintro ⟨hbalanced, houtside⟩
    constructor
    · rw [isBalanced, if_pos h]
      exact hbalanced
    · rw [Outside, if_pos h]
      exact houtside

theorem tidy_right (h : l.token = .rightParen) :
    Tidy p depth (l :: c) ↔ 0 < depth ∧ Tidy p (depth - 1) c := by
  have hleft : l.token ≠ .leftParen := by simp [h]
  constructor
  · rintro ⟨hbalanced, houtside⟩
    rw [isBalanced, if_neg hleft, if_pos h, Bool.and_eq_true, decide_eq_true_eq] at hbalanced
    rw [Outside, if_neg hleft, if_pos h] at houtside
    exact ⟨hbalanced.1, hbalanced.2, houtside⟩
  · rintro ⟨hdepth, hbalanced, houtside⟩
    constructor
    · rw [isBalanced, if_neg hleft, if_pos h, hbalanced, decide_eq_true hdepth, Bool.and_true]
    · rw [Outside, if_neg hleft, if_pos h]
      exact houtside

theorem tidy_other (h : l.token ≠ .leftParen ∧ l.token ≠ .rightParen) :
    Tidy p depth (l :: c) ↔ (depth = 0 → p (l :: c)) ∧ Tidy p depth c := by
  constructor
  · rintro ⟨hbalanced, houtside⟩
    rw [isBalanced, if_neg h.1, if_neg h.2] at hbalanced
    rw [Outside, if_neg h.1, if_neg h.2] at houtside
    exact ⟨houtside.1, hbalanced, houtside.2⟩
  · rintro ⟨hhead, hbalanced, houtside⟩
    constructor
    · rw [isBalanced, if_neg h.1, if_neg h.2]
      exact hbalanced
    · rw [Outside, if_neg h.1, if_neg h.2]
      exact ⟨hhead, houtside⟩

/-- A lexeme that opens no group can be taken off. -/
theorem Tidy.tail (h : Tidy p 0 (l :: c)) (hl : l.token ≠ .leftParen) : Tidy p 0 c := by
  rcases token_cases l with hleft | hright | hother
  · exact absurd hleft hl
  · exact absurd ((tidy_right hright).1 h).1 (Nat.lt_irrefl 0)
  · exact ((tidy_other hother).1 h).2

theorem Tidy.drop_one (h : Tidy p 0 c) (hc : c.startsGroup = false) : Tidy p 0 (c.drop 1) := by
  cases c with
  | nil => exact .nil
  | cons l c =>
      rw [startsGroup, beq_eq_false_iff_ne] at hc
      exact h.tail hc

theorem Outside.mono {q : Clause → Prop} (hpq : ∀ c, p c → q c) (h : c.Outside p depth) :
    c.Outside q depth := by
  induction c generalizing depth with
  | nil => trivial
  | cons l c ih =>
      rw [Outside] at h ⊢
      split at h
      · next hleft =>
        rw [if_pos hleft]
        exact ih h
      · next hleft =>
        rw [if_neg hleft]
        split at h
        · next hright =>
          rw [if_pos hright]
          exact ih h
        · next hright =>
          rw [if_neg hright]
          exact ⟨fun hzero => hpq _ (h.1 hzero), ih h.2⟩

theorem Outside.and {q : Clause → Prop} (hp : c.Outside p depth) (hq : c.Outside q depth) :
    c.Outside (fun c => p c ∧ q c) depth := by
  induction c generalizing depth with
  | nil => trivial
  | cons l c ih =>
      rw [Outside] at hp hq ⊢
      split at hp
      · next hleft =>
        rw [if_pos hleft] at hq ⊢
        exact ih hp hq
      · next hleft =>
        rw [if_neg hleft] at hq ⊢
        split at hp
        · next hright =>
          rw [if_pos hright] at hq ⊢
          exact ih hp hq
        · next hright =>
          rw [if_neg hright] at hq ⊢
          exact ⟨fun hzero => ⟨hp.1 hzero, hq.1 hzero⟩, ih hp.2 hq.2⟩

theorem Tidy.mono {q : Clause → Prop} (hpq : ∀ c, p c → q c) (h : Tidy p depth c) :
    Tidy q depth c :=
  ⟨h.balanced, h.outside.mono hpq⟩

/-! ## Runs -/

theorem run_append_run (depth : Nat) (c : Clause) : (run depth c).1 ++ (run depth c).2 = c := by
  fun_induction run depth c with
  | case1 => rfl
  | case2 _ l rest _ ih => exact congrArg (l :: ·) ih
  | case3 _ l rest _ ih => exact congrArg (l :: ·) ih
  | case4 => rfl
  | case5 _ l rest _ _ _ ih => exact congrArg (l :: ·) ih

/-- A run ends outside all groups. -/
theorem Tidy.run_snd (h : Tidy p depth c) : Tidy p 0 (run depth c).2 := by
  fun_induction run depth c with
  | case1 depth =>
      obtain rfl : depth = 0 := by simpa [isBalanced] using h.balanced
      exact .nil
  | case2 depth l rest hleft ih => exact ih ((tidy_left hleft).1 h)
  | case3 depth l rest hright ih => exact ih ((tidy_right hright).1 h).2
  | case4 depth l rest hstart =>
      rw [Bool.and_eq_true, decide_eq_true_eq] at hstart
      rwa [hstart.1] at h
  | case5 depth l rest _ hleft hright ih => exact ih ((tidy_other ⟨hleft, hright⟩).1 h).2

/-- A run closes the groups that are open before it, and no others. -/
theorem isBalanced_run (h : isBalanced depth c = true) :
    isBalanced depth (run depth c).1 = true := by
  fun_induction run depth c with
  | case1 => exact h
  | case2 depth l rest hleft ih =>
      rw [isBalanced, if_pos hleft] at h
      simp only [Prod.map_fst, isBalanced, if_pos hleft, ih h]
  | case3 depth l rest hright ih =>
      have hleft : l.token ≠ .leftParen := by simp [hright]
      rw [isBalanced, if_neg hleft, if_pos hright, Bool.and_eq_true] at h
      simp only [Prod.map_fst, isBalanced, if_neg hleft, if_pos hright, ih h.2, h.1, Bool.and_true]
  | case4 depth l rest hstart =>
      rw [Bool.and_eq_true, decide_eq_true_eq] at hstart
      rw [hstart.1]
      rfl
  | case5 depth l rest _ hleft hright ih =>
      rw [isBalanced, if_neg hleft, if_neg hright] at h
      simp only [Prod.map_fst, isBalanced, if_neg hleft, if_neg hright, ih h]

/-- No comma stands outside the groups of a run if none does outside those of the clause. -/
theorem outside_run (h : c.Outside NoComma depth) : (run depth c).1.Outside NoComma depth := by
  fun_induction run depth c with
  | case1 => trivial
  | case2 depth l rest hleft ih =>
      rw [Outside, if_pos hleft] at h
      rw [Prod.map_fst, Outside, if_pos hleft]
      exact ih h
  | case3 depth l rest hright ih =>
      have hleft : l.token ≠ .leftParen := by simp [hright]
      rw [Outside, if_neg hleft, if_pos hright] at h
      rw [Prod.map_fst, Outside, if_neg hleft, if_pos hright]
      exact ih h
  | case4 => trivial
  | case5 depth l rest _ hleft hright ih =>
      rw [Outside, if_neg hleft, if_neg hright] at h
      rw [Prod.map_fst, Outside, if_neg hleft, if_neg hright]
      exact ⟨h.1, ih h.2⟩

theorem Tidy.run_fst (h : Tidy NoComma depth c) : Tidy NoComma depth (run depth c).1 :=
  ⟨isBalanced_run h.balanced, outside_run h.outside⟩

theorem defaultRun_append_defaultRun (c : Clause) : (defaultRun c).1 ++ (defaultRun c).2 = c := by
  cases c with
  | nil => rfl
  | cons l rest => exact congrArg (l :: ·) (run_append_run _ rest)

/-- The rest of a clause where `defaultRun` reads on. -/
theorem Tidy.of_defaultRun (h : Tidy p 0 (l :: rest)) :
    Tidy p (if l.token = .leftParen then 1 else 0) rest := by
  split
  · next hleft => exact (tidy_left hleft).1 h
  · next hleft => exact h.tail hleft

theorem Tidy.defaultRun_snd (h : Tidy p 0 c) : Tidy p 0 (defaultRun c).2 := by
  cases c with
  | nil => exact .nil
  | cons l rest => exact h.of_defaultRun.run_snd

theorem Tidy.defaultRun_fst (h : Tidy NoComma 0 c) : Tidy NoComma 0 (defaultRun c).1 := by
  cases c with
  | nil => exact .nil
  | cons l rest =>
      have hrun := h.of_defaultRun.run_fst
      rw [defaultRun, Prod.map_fst]
      rcases token_cases l with hleft | hright | hother
      · rw [if_pos hleft] at hrun ⊢
        exact (tidy_left hleft).2 hrun
      · exact absurd ((tidy_right hright).1 h).1 (Nat.lt_irrefl 0)
      · rw [if_neg hother.1] at hrun ⊢
        exact (tidy_other hother).2 ⟨((tidy_other hother).1 h).1, hrun⟩

/-! ## Groups -/

/-- In a group the parentheses match, and the parenthesis that closes it stands between the group
and what follows it. -/
theorem eq_append_of_closeGroup? {inner : Clause}
    (h : closeGroup? depth c = some (inner, rest)) :
    isBalanced depth inner = true ∧
      ∃ right, right.token = .rightParen ∧ c = inner ++ right :: rest := by
  induction c generalizing depth inner with
  | nil => cases h
  | cons l c ih =>
      rcases token_cases l with hleft | hright | hother
      · rw [closeGroup?_left hleft, Option.map_eq_some_iff] at h
        obtain ⟨⟨inner, rest⟩, hmore, hpair⟩ := h
        obtain ⟨rfl, rfl⟩ := Prod.mk.inj hpair
        obtain ⟨hinner, right, hclose, rfl⟩ := ih hmore
        rw [isBalanced, if_pos hleft]
        exact ⟨hinner, right, hclose, rfl⟩
      · cases depth with
        | zero =>
            rw [closeGroup?_right_zero hright] at h
            obtain ⟨rfl, rfl⟩ := Prod.mk.inj (Option.some.inj h)
            exact ⟨rfl, l, hright, rfl⟩
        | succ depth =>
            rw [closeGroup?_right_succ hright, Option.map_eq_some_iff] at h
            obtain ⟨⟨inner, rest⟩, hmore, hpair⟩ := h
            obtain ⟨rfl, rfl⟩ := Prod.mk.inj hpair
            obtain ⟨hinner, right, hclose, rfl⟩ := ih hmore
            rw [isBalanced, if_neg (by simp [hright]), if_pos hright, Nat.add_sub_cancel, hinner]
            exact ⟨rfl, right, hclose, rfl⟩
      · rw [closeGroup?_other hother, Option.map_eq_some_iff] at h
        obtain ⟨⟨inner, rest⟩, hmore, hpair⟩ := h
        obtain ⟨rfl, rfl⟩ := Prod.mk.inj hpair
        obtain ⟨hinner, right, hclose, rfl⟩ := ih hmore
        rw [isBalanced, if_neg hother.1, if_neg hother.2]
        exact ⟨hinner, right, hclose, rfl⟩

/-- What stands in a group has matching parentheses. -/
theorem isBalanced_of_closeGroup? {inner : Clause} (h : closeGroup? depth c = some (inner, rest)) :
    isBalanced depth inner = true :=
  (eq_append_of_closeGroup? h).1

/-- A group closes outside all other groups. -/
theorem Tidy.closeGroup? {inner : Clause} (h : Tidy p (depth + 1) c)
    (hclose : Clause.closeGroup? depth c = some (inner, rest)) : Tidy p 0 rest := by
  induction c generalizing depth inner with
  | nil => simp [Clause.closeGroup?] at hclose
  | cons l c ih =>
      rcases token_cases l with hleft | hright | hother
      · rw [closeGroup?_left hleft, Option.map_eq_some_iff] at hclose
        obtain ⟨⟨inner, rest⟩, hmore, hpair⟩ := hclose
        obtain ⟨-, rfl⟩ := Prod.mk.inj hpair
        exact ih ((tidy_left hleft).1 h) hmore
      · have hrest := ((tidy_right hright).1 h).2
        rw [Nat.add_sub_cancel] at hrest
        cases depth with
        | zero =>
            rw [closeGroup?_right_zero hright] at hclose
            obtain ⟨-, rfl⟩ := Prod.mk.inj (Option.some.inj hclose)
            exact hrest
        | succ depth =>
            rw [closeGroup?_right_succ hright, Option.map_eq_some_iff] at hclose
            obtain ⟨⟨inner, rest⟩, hmore, hpair⟩ := hclose
            obtain ⟨-, rfl⟩ := Prod.mk.inj hpair
            exact ih hrest hmore
      · rw [closeGroup?_other hother, Option.map_eq_some_iff] at hclose
        obtain ⟨⟨inner, rest⟩, hmore, hpair⟩ := hclose
        obtain ⟨-, rfl⟩ := Prod.mk.inj hpair
        exact ih ((tidy_other hother).1 h).2 hmore

theorem Tidy.group? {inner : Clause} (h : Tidy p 0 c) (hgroup : c.group? = some (inner, rest)) :
    Tidy p 0 rest := by
  cases c with
  | nil => cases hgroup
  | cons l c =>
      rw [Clause.group?] at hgroup
      split at hgroup
      · next hleft =>
        have hinside := (tidy_left hleft).1 h
        cases hclose : Clause.closeGroup? 0 c with
        | none =>
            rw [hclose] at hgroup
            obtain ⟨-, rfl⟩ := Prod.mk.inj (Option.some.inj hgroup)
            exact .nil
        | some pair =>
            rw [hclose] at hgroup
            obtain rfl := Option.some.inj hgroup
            exact hinside.closeGroup? hclose
      · cases hgroup

theorem Tidy.skipGroup (h : Tidy p 0 c) : Tidy p 0 c.skipGroup := by
  rw [Clause.skipGroup]
  split
  · next hgroup => exact h.group? hgroup
  · exact h

/-! ## Words and names -/

theorem other_of_keyword? {k : Keyword} (h : l.keyword? = some k) :
    l.token ≠ .leftParen ∧ l.token ≠ .rightParen := by
  rw [Lexeme.keyword?] at h
  constructor
  · intro hleft
    rw [hleft] at h
    cases h
  · intro hright
    rw [hright] at h
    cases h

theorem other_of_isAny {ks : List Keyword} (h : l.isAny ks = true) :
    l.token ≠ .leftParen ∧ l.token ≠ .rightParen := by
  obtain ⟨k, -, hk⟩ := List.any_eq_true.1 h
  exact other_of_keyword? (beq_iff_eq.1 hk)

theorem ne_leftParen_of_name? {name : String} (h : l.name? = some name) :
    l.token ≠ .leftParen := by
  intro hleft
  rw [Lexeme.name?, hleft] at h
  cases h

theorem Tidy.after? {ks : List Keyword} (h : Tidy p 0 c) (hrest : Clause.after? ks c = some rest) :
    Tidy p 0 rest := by
  induction ks generalizing c with
  | nil =>
      obtain rfl := Option.some.inj hrest
      exact h
  | cons k ks ih =>
      cases c with
      | nil => cases hrest
      | cons l c =>
          rw [Clause.after?] at hrest
          split at hrest
          · next hk => exact ih (h.tail (other_of_keyword? (beq_iff_eq.1 hk)).1) hrest
          · cases hrest

theorem Outside.after? {ks : List Keyword} (h : c.Outside p 0)
    (hrest : Clause.after? ks c = some rest) : rest.Outside p 0 := by
  induction ks generalizing c with
  | nil =>
      obtain rfl := Option.some.inj hrest
      exact h
  | cons k ks ih =>
      cases c with
      | nil => cases hrest
      | cons l c =>
          rw [Clause.after?] at hrest
          split at hrest
          · next hk =>
            have hother := other_of_keyword? (beq_iff_eq.1 hk)
            rw [Outside, if_neg hother.1, if_neg hother.2] at h
            exact ih h.2 hrest
          · cases hrest

theorem Outside.skip (h : c.Outside p 0) (ks : List Keyword) : (c.skip ks).Outside p 0 := by
  rw [Clause.skip]
  cases hrest : Clause.after? ks c with
  | none => exact h
  | some rest => exact h.after? hrest

theorem Tidy.skip (h : Tidy p 0 c) (ks : List Keyword) : Tidy p 0 (c.skip ks) := by
  rw [Clause.skip]
  cases hrest : Clause.after? ks c with
  | none => exact h
  | some rest => exact h.after? hrest

theorem Tidy.skipAny (h : Tidy p 0 c) (ks : List Keyword) : Tidy p 0 (c.skipAny ks) := by
  cases c with
  | nil => exact .nil
  | cons l c =>
      rw [Clause.skipAny]
      split
      · next hany => exact h.tail (other_of_isAny hany).1
      · exact h

theorem Tidy.qualifiedFrom (h : Tidy p 0 c) (name : String) :
    Tidy p 0 (Clause.qualifiedFrom name c).2 := by
  fun_induction Clause.qualifiedFrom name c with
  | case1 _ point part rest hpoint _ hname ih =>
      have hpart : Tidy p 0 (part :: rest) := h.tail (by simp [hpoint])
      exact ih (hpart.tail (ne_leftParen_of_name? hname))
  | case2 => exact h
  | case3 => exact h
  | case4 => exact h

theorem Tidy.tableName? {name : String} (h : Tidy p 0 c)
    (hname : c.tableName? = some (name, rest)) : Tidy p 0 rest := by
  cases c with
  | nil => cases hname
  | cons l c =>
      rw [Clause.tableName?, Option.map_eq_some_iff] at hname
      obtain ⟨first, hfirst, hrest⟩ := hname
      have hafter := (h.tail (ne_leftParen_of_name? hfirst)).qualifiedFrom first
      rwa [hrest] at hafter

/-! ## Parts between commas -/

/-- What holds after each lexeme, and again after a comma outside all groups, leads to what holds of
the parts. Here `before` has been read (last lexeme first), `depth` groups are open, and `c`
follows. -/
theorem forall_mem_splitFrom {inv : Clause → Nat → Clause → Prop} {goal : Clause → Prop}
    (hleft : ∀ {l : Lexeme} {before rest : Clause} {depth : Nat}, l.token = .leftParen →
      inv before depth (l :: rest) → inv (l :: before) (depth + 1) rest)
    (hright : ∀ {l : Lexeme} {before rest : Clause} {depth : Nat}, l.token = .rightParen →
      inv before depth (l :: rest) → inv (l :: before) (depth - 1) rest)
    (hother : ∀ {l : Lexeme} {before rest : Clause} {depth : Nat},
      (l.token ≠ .leftParen ∧ l.token ≠ .rightParen) → (depth = 0 → l.token ≠ .comma) →
      inv before depth (l :: rest) → inv (l :: before) depth rest)
    (hcomma : ∀ {l : Lexeme} {before rest : Clause}, l.token = .comma →
      inv before 0 (l :: rest) → inv [] 0 rest)
    (hgoal : ∀ {before c : Clause} {depth : Nat}, (c = [] ∨ depth = 0) → inv before depth c →
      goal before.reverse)
    {before : Clause} (hinv : inv before depth c) :
    ∀ part ∈ splitFrom before depth c, goal part := by
  induction c generalizing before depth with
  | nil =>
      intro part hpart
      rw [List.mem_singleton.1 hpart]
      exact hgoal (.inl rfl) hinv
  | cons l rest ih =>
      rcases token_cases l with hopens | hcloses | hneither
      · rw [splitFrom_left hopens]
        exact ih (hleft hopens hinv)
      · rw [splitFrom_right hcloses]
        exact ih (hright hcloses hinv)
      · by_cases hcut : depth = 0 ∧ l.token = .comma
        · obtain ⟨rfl, hl⟩ := hcut
          rw [splitFrom_comma hl]
          exact List.forall_mem_cons.2 ⟨hgoal (.inr rfl) hinv, ih (hcomma hl hinv)⟩
        · have hplain : depth = 0 → l.token ≠ .comma := fun hzero hl => hcut ⟨hzero, hl⟩
          rw [splitFrom_other hneither hplain]
          exact ih (hother hneither hplain hinv)

theorem reverse_cons_append (l : Lexeme) (before after : Clause) :
    (l :: before).reverse ++ after = before.reverse ++ l :: after := by
  rw [List.reverse_cons, List.append_assoc, List.singleton_append]

/-- No comma stands outside the groups of a part. -/
theorem outside_of_mem_splitTopLevel {part : Clause} (h : part ∈ c.splitTopLevel) :
    part.Outside NoComma 0 := by
  -- Whatever may follow at the depth reached, no comma stands outside groups up to there.
  refine @forall_mem_splitFrom c 0 (fun before depth _ => ∀ after : Clause,
    after.Outside NoComma depth → Outside NoComma 0 (before.reverse ++ after))
    (fun part => part.Outside NoComma 0) ?_ ?_ ?_ ?_ ?_ [] (fun _ hafter => hafter) part
    (List.mem_filter.1 h).1
  · intro l before rest depth hleft hinv after hafter
    rw [reverse_cons_append]
    refine hinv _ ?_
    rwa [Outside, if_pos hleft]
  · intro l before rest depth hright hinv after hafter
    rw [reverse_cons_append]
    refine hinv _ ?_
    rwa [Outside, if_neg (by simp [hright]), if_pos hright]
  · intro l before rest depth hother hplain hinv after hafter
    rw [reverse_cons_append]
    refine hinv _ ?_
    rw [Outside, if_neg hother.1, if_neg hother.2]
    refine ⟨fun hzero m hm => ?_, hafter⟩
    obtain rfl := Option.some.inj hm
    exact hplain hzero
  · exact fun _ _ _ hafter => hafter
  · intro before c depth _ hinv
    have hpart := hinv [] trivial
    rwa [List.append_nil] at hpart

/-- The parentheses match in the parts of a clause in which they match. -/
theorem isBalanced_of_mem_splitTopLevel {part : Clause} (hc : isBalanced 0 c = true)
    (h : part ∈ c.splitTopLevel) : isBalanced 0 part = true := by
  -- What has been read leaves as many groups open as what follows closes.
  refine @forall_mem_splitFrom c 0 (fun before depth c => isBalanced depth c = true ∧
    ∀ after, isBalanced 0 (before.reverse ++ after) = isBalanced depth after)
    (fun part => isBalanced 0 part = true) ?_ ?_ ?_ ?_ ?_ [] ⟨hc, fun _ => rfl⟩ part
    (List.mem_filter.1 h).1
  · rintro l before rest depth hleft ⟨hrest, hinv⟩
    rw [isBalanced, if_pos hleft] at hrest
    refine ⟨hrest, fun after => ?_⟩
    rw [reverse_cons_append, hinv, isBalanced, if_pos hleft]
  · rintro l before rest depth hright ⟨hrest, hinv⟩
    rw [isBalanced, if_neg (by simp [hright]), if_pos hright, Bool.and_eq_true] at hrest
    refine ⟨hrest.2, fun after => ?_⟩
    rw [reverse_cons_append, hinv, isBalanced, if_neg (by simp [hright]), if_pos hright, hrest.1,
      Bool.true_and]
  · rintro l before rest depth hother - ⟨hrest, hinv⟩
    rw [isBalanced, if_neg hother.1, if_neg hother.2] at hrest
    refine ⟨hrest, fun after => ?_⟩
    rw [reverse_cons_append, hinv, isBalanced, if_neg hother.1, if_neg hother.2]
  · rintro l before rest hl ⟨hrest, -⟩
    rw [isBalanced, if_neg (by simp [hl]), if_neg (by simp [hl])] at hrest
    exact ⟨hrest, fun _ => rfl⟩
  · rintro before c depth hend ⟨hrest, hinv⟩
    have hpart := hinv []
    rw [List.append_nil] at hpart
    rw [hpart]
    rcases hend with rfl | rfl
    · exact hrest
    · rfl

/-- The parts that a body is cut into. -/
theorem tidy_of_mem_splitTopLevel {part : Clause} (hc : isBalanced 0 c = true)
    (h : part ∈ c.splitTopLevel) : Tidy NoComma 0 part :=
  ⟨isBalanced_of_mem_splitTopLevel hc h, outside_of_mem_splitTopLevel h⟩

end Clause

end Ddl

end EntityRelation
