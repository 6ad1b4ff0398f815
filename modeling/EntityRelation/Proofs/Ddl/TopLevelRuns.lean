import EntityRelation.Proofs.Ddl.ImportedTexts
import EntityRelation.Proofs.Ddl.ParenthesisCount
import EntityRelation.Proofs.Ddl.Parts

/-!
# Runs between commas

The parts that a clause with matching parentheses is cut into are its runs: the longest stretches
without a comma outside all groups, in the order in which they stand in the clause
(`IsJoined.exists_runs`). With commas between them, and empty parts where two commas follow each
other, they are the clause again (`isJoined_splitFrom`). Together with the search for the end of a
group, which stops at the first place where the counts of parentheses are level, this says what the
readers of clauses rely on (`groups_and_parts_exact`): they never see half a group.
-/

namespace EntityRelation

namespace Ddl

namespace Clause

/-- A comma outside all groups stands at the position: before it, as many groups are closed as
opened. -/
structure CutAt (c : Clause) (i : Nat) : Prop where
  comma : (c.map Lexeme.token)[i]? = some .comma
  closed_eq : closed (c.take i) = opened (c.take i)

/-- From `start` up to `stop` there are lexemes, and no comma outside all groups is among them. -/
structure IsStretch (c : Clause) (start stop : Nat) : Prop where
  start_lt : start < stop
  stop_le : stop ≤ c.length
  uncut : ∀ i, start ≤ i → i < stop → ¬ c.CutAt i

/-- A stretch that is part of no longer one. -/
structure IsRun (c : Clause) (start stop : Nat) : Prop extends c.IsStretch start stop where
  maximal : ∀ {a b}, c.IsStretch a b → a ≤ start → stop ≤ b → a = start ∧ b = stop

variable {a b c : Clause} {l : Lexeme} {depth i start stop : Nat}

/-! ## Commas outside all groups -/

theorem cutAt_append_left (h : i < a.length) : (a ++ b).CutAt i ↔ a.CutAt i := by
  have htoken : ((a ++ b).map Lexeme.token)[i]? = (a.map Lexeme.token)[i]? := by
    rw [List.map_append, List.getElem?_append_left (by simpa using h)]
  have htake : (a ++ b).take i = a.take i := List.take_append_of_le_length h.le
  constructor
  · rintro ⟨hcomma, hclosed⟩
    exact ⟨htoken ▸ hcomma, htake ▸ hclosed⟩
  · rintro ⟨hcomma, hclosed⟩
    exact ⟨htoken.symm ▸ hcomma, htake.symm ▸ hclosed⟩

theorem cutAt_append_comma (ha : a.Balanced) (hl : l.token = .comma) :
    (a ++ l :: b).CutAt a.length := by
  constructor
  · simp [hl]
  · rw [List.take_left]
    exact ha.closed_eq

theorem cutAt_append_right (ha : a.Balanced) (hl : l.token = .comma) :
    (a ++ l :: b).CutAt (a.length + (1 + i)) ↔ b.CutAt i := by
  have hleft : l.token ≠ .leftParen := by simp [hl]
  have hright : l.token ≠ .rightParen := by simp [hl]
  have htoken : ((a ++ l :: b).map Lexeme.token)[a.length + (1 + i)]? =
      (b.map Lexeme.token)[i]? := by
    rw [List.map_append, List.getElem?_append_right (by simp), List.length_map,
      Nat.add_sub_cancel_left, Nat.add_comm, List.map_cons, List.getElem?_cons_succ]
  have htake : (a ++ l :: b).take (a.length + (1 + i)) = a ++ l :: b.take i := by
    rw [List.take_length_add_append, Nat.add_comm, List.take_succ_cons]
  have hcounts : closed (a ++ l :: b.take i) = opened (a ++ l :: b.take i) ↔
      closed (b.take i) = opened (b.take i) := by
    rw [closed_append, opened_append, closed_cons_of_ne hright, opened_cons_of_ne hleft,
      ha.closed_eq, Nat.add_left_cancel_iff]
  constructor
  · rintro ⟨hcomma, hclosed⟩
    exact ⟨htoken ▸ hcomma, hcounts.1 (htake ▸ hclosed)⟩
  · rintro ⟨hcomma, hclosed⟩
    exact ⟨htoken.symm ▸ hcomma, htake.symm ▸ hcounts.2 hclosed⟩

/-- Where no comma stands outside all groups, the counts in front of a comma are never level. -/
theorem closed_ne_of_outside (hbalanced : isBalanced depth c = true)
    (h : c.Outside NoComma depth) (hcomma : (c.map Lexeme.token)[i]? = some .comma) :
    closed (c.take i) ≠ opened (c.take i) + depth := by
  induction c generalizing depth i with
  | nil => simp at hcomma
  | cons l c ih =>
      rw [isBalanced] at hbalanced
      rw [Outside] at h
      rcases token_cases l with hleft | hright | hother
      · have hne : l.token ≠ .rightParen := by simp [hleft]
        rw [if_pos hleft] at hbalanced h
        cases i with
        | zero => simp [hleft] at hcomma
        | succ i =>
            have hrest := ih hbalanced h hcomma
            rw [List.take_succ_cons, closed_cons_of_ne hne, opened_cons_left hleft]
            omega
      · have hne : l.token ≠ .leftParen := by simp [hright]
        rw [if_neg hne, if_pos hright] at hbalanced h
        rw [Bool.and_eq_true, decide_eq_true_eq] at hbalanced
        cases i with
        | zero => simp [hright] at hcomma
        | succ i =>
            have hrest := ih hbalanced.2 h hcomma
            rw [List.take_succ_cons, closed_cons_right hright, opened_cons_of_ne hne]
            omega
      · rw [if_neg hother.1, if_neg hother.2] at hbalanced h
        cases i with
        | zero =>
            have hl : l.token = .comma := by simpa using hcomma
            have hdepth : depth ≠ 0 := fun hzero => h.1 hzero l rfl hl
            rw [List.take_zero, closed_nil, opened_nil]
            omega
        | succ i =>
            rw [List.take_succ_cons, closed_cons_of_ne hother.2, opened_cons_of_ne hother.1]
            exact ih hbalanced h.2 hcomma

theorem Tidy.not_cutAt (h : Tidy NoComma 0 c) (i : Nat) : ¬ c.CutAt i :=
  fun hcut => closed_ne_of_outside h.balanced h.outside hcut.comma hcut.closed_eq

/-! ## Runs -/

/-- A stretch is a run when on either side the clause ends or a comma stands outside all groups. -/
theorem isRun_iff : c.IsRun start stop ↔ c.IsStretch start stop ∧
    (start = 0 ∨ c.CutAt (start - 1)) ∧ (stop = c.length ∨ c.CutAt stop) := by
  constructor
  · intro h
    have hlt := h.start_lt
    have hle := h.stop_le
    refine ⟨h.toIsStretch, ?_, ?_⟩
    -- Without an end or a comma there, one lexeme more makes a longer stretch.
    · by_contra hleft
      rw [not_or] at hleft
      have hlonger : c.IsStretch (start - 1) stop := by
        refine ⟨by omega, hle, fun i hi => ?_⟩
        rcases Nat.eq_or_lt_of_le hi with rfl | hbehind
        · exact fun _ => hleft.2
        · exact h.uncut i (by omega)
      have hsame := (h.maximal hlonger (Nat.sub_le _ _) le_rfl).1
      omega
    · by_contra hright
      rw [not_or] at hright
      have hlonger : c.IsStretch start (stop + 1) := by
        refine ⟨by omega, by omega, fun i hi hstop => ?_⟩
        rcases Nat.eq_or_lt_of_le (Nat.le_of_lt_succ hstop) with rfl | hbefore
        · exact hright.2
        · exact h.uncut i hi hbefore
      have hsame := (h.maximal hlonger le_rfl (Nat.le_succ _)).2
      omega
  · rintro ⟨h, hleft, hright⟩
    have hlt := h.start_lt
    refine ⟨h, fun {a b} hlonger ha hb => ⟨?_, ?_⟩⟩
    · rcases hleft with rfl | hcut
      · exact Nat.le_zero.1 ha
      · by_contra hne
        exact hlonger.uncut _ (by omega) (by omega) hcut
    · rcases hright with rfl | hcut
      · exact le_antisymm hlonger.stop_le hb
      · by_contra hne
        exact hlonger.uncut _ (by omega) (by omega) hcut

/-- A clause without commas outside all groups is one run. -/
theorem isRun_of_uncut (hc : ∀ i, ¬ c.CutAt i) :
    c.IsRun start stop ↔ c ≠ [] ∧ start = 0 ∧ stop = c.length := by
  rw [isRun_iff, or_iff_left (hc _), or_iff_left (hc _)]
  constructor
  · rintro ⟨h, rfl, rfl⟩
    exact ⟨List.ne_nil_of_length_pos h.start_lt, rfl, rfl⟩
  · rintro ⟨hne, rfl, rfl⟩
    exact ⟨⟨List.length_pos_iff.2 hne, le_rfl, fun i _ _ => hc i⟩, rfl, rfl⟩

section AppendComma

variable (ha : a.Balanced) (hl : l.token = .comma)

include ha hl

theorem isStretch_append_right :
    (a ++ l :: b).IsStretch (a.length + (1 + start)) (a.length + (1 + stop)) ↔
      b.IsStretch start stop := by
  constructor
  · rintro ⟨hlt, hle, huncut⟩
    rw [List.length_append, List.length_cons] at hle
    refine ⟨by omega, by omega, fun i hi hstop hcut => ?_⟩
    exact huncut _ (by omega) (by omega) ((cutAt_append_right ha hl).2 hcut)
  · rintro ⟨hlt, hle, huncut⟩
    refine ⟨by omega, ?_, fun i hi hstop hcut => ?_⟩
    · rw [List.length_append, List.length_cons]
      omega
    · obtain ⟨j, rfl⟩ : ∃ j, i = a.length + (1 + j) := ⟨i - a.length - 1, by omega⟩
      exact huncut j (by omega) (by omega) ((cutAt_append_right ha hl).1 hcut)

theorem cutAt_pred_append_right :
    (a ++ l :: b).CutAt (a.length + (1 + start) - 1) ↔ start = 0 ∨ b.CutAt (start - 1) := by
  cases start with
  | zero => exact iff_of_true (cutAt_append_comma ha hl) (.inl rfl)
  | succ k =>
      have hpred : a.length + (1 + (k + 1)) - 1 = a.length + (1 + k) := by omega
      rw [hpred, cutAt_append_right ha hl, or_iff_right (Nat.succ_ne_zero k), Nat.add_sub_cancel]

/-- Behind a comma outside all groups, the runs are those of what follows it. -/
theorem isRun_append_right :
    (a ++ l :: b).IsRun (a.length + (1 + start)) (a.length + (1 + stop)) ↔
      b.IsRun start stop := by
  have hstart : a.length + (1 + start) ≠ 0 := by omega
  have hstop : a.length + (1 + stop) = (a ++ l :: b).length ↔ stop = b.length := by
    rw [List.length_append, List.length_cons]
    omega
  rw [isRun_iff, isRun_iff, isStretch_append_right ha hl, or_iff_right hstart,
    cutAt_pred_append_right ha hl, hstop, cutAt_append_right ha hl]

/-- The runs of a clause with a first comma outside all groups: what stands before the comma, and
the runs of what follows it. -/
theorem isRun_append_comma (hcut : ∀ i, ¬ a.CutAt i) :
    (a ++ l :: b).IsRun start stop ↔ (a ≠ [] ∧ start = 0 ∧ stop = a.length) ∨
      ∃ s t, b.IsRun s t ∧ start = a.length + (1 + s) ∧ stop = a.length + (1 + t) := by
  have hbefore : ∀ {i}, i < a.length → ¬ (a ++ l :: b).CutAt i := fun hi =>
    (cutAt_append_left hi).not.2 (hcut _)
  have hcomma : (a ++ l :: b).CutAt a.length := cutAt_append_comma ha hl
  constructor
  · intro h
    obtain ⟨hstretch, hleft, hright⟩ := isRun_iff.1 h
    have hlt := hstretch.start_lt
    rcases Nat.lt_or_ge a.length start with hbehind | hfront
    · obtain ⟨s, rfl⟩ : ∃ s, start = a.length + (1 + s) := ⟨start - a.length - 1, by omega⟩
      obtain ⟨t, rfl⟩ : ∃ t, stop = a.length + (1 + t) := ⟨stop - a.length - 1, by omega⟩
      exact .inr ⟨s, t, (isRun_append_right ha hl).1 h, rfl, rfl⟩
    · have hle : stop ≤ a.length := by
        by_contra hlonger
        exact hstretch.uncut _ hfront (by omega) hcomma
      have hstart : start = 0 := by
        by_contra hne
        exact hbefore (by omega) (hleft.resolve_left hne)
      have hstop : stop = a.length := by
        by_contra hne
        refine hbefore (by omega) (hright.resolve_left ?_)
        rw [List.length_append, List.length_cons]
        omega
      exact .inl ⟨List.ne_nil_of_length_pos (by omega), hstart, hstop⟩
  · rintro (⟨hne, rfl, rfl⟩ | ⟨s, t, h, rfl, rfl⟩)
    · refine isRun_iff.2 ⟨⟨List.length_pos_iff.2 hne, ?_, fun i _ hi => hbefore hi⟩, .inl rfl,
        .inr hcomma⟩
      simp
    · exact (isRun_append_right ha hl).2 h

end AppendComma

/-! ## Parts -/

/-- A clause is its parts with commas between them. -/
theorem isJoined_splitFrom (before : Clause) (depth : Nat) (c : Clause) :
    IsJoined (splitFrom before depth c) (before.reverse ++ c) := by
  induction c generalizing before depth with
  | nil =>
      rw [List.append_nil]
      exact .one before.reverse
  | cons l rest ih =>
      rcases token_cases l with hleft | hright | hother
      · rw [splitFrom_left hleft, ← reverse_cons_append]
        exact ih _ _
      · rw [splitFrom_right hright, ← reverse_cons_append]
        exact ih _ _
      · by_cases hcut : depth = 0 ∧ l.token = .comma
        · obtain ⟨rfl, hl⟩ := hcut
          rw [splitFrom_comma hl]
          exact .cons hl (ih [] 0)
        · rw [splitFrom_other hother fun hzero hl => hcut ⟨hzero, hl⟩, ← reverse_cons_append]
          exact ih _ _

theorem tidy_of_mem_splitFrom {part : Clause} (hc : isBalanced 0 c = true)
    (h : part ∈ splitFrom [] 0 c) : Tidy NoComma 0 part := by
  by_cases hnil : part = []
  · rw [hnil]
    exact .nil
  · exact tidy_of_mem_splitTopLevel hc (List.mem_filter.2 ⟨h, by simpa using hnil⟩)

/-- The lexemes between two positions. -/
def between (c : Clause) (positions : Nat × Nat) : Clause :=
  c.extract positions.1 positions.2

/-- The positions of the whole clause, if it is not empty. -/
def wholeRun (c : Clause) : List (Nat × Nat) :=
  if c = [] then [] else [(0, c.length)]

/-- Two positions in a clause, when `a` and a comma are put before it. -/
def behind (a : Clause) (positions : Nat × Nat) : Nat × Nat :=
  (a.length + (1 + positions.1), a.length + (1 + positions.2))

theorem mem_wholeRun : (start, stop) ∈ c.wholeRun ↔ c ≠ [] ∧ start = 0 ∧ stop = c.length := by
  rw [wholeRun]
  split
  · next hnil => simp [hnil]
  · next hne => simp [hne]

theorem pairwise_wholeRun (R : Nat × Nat → Nat × Nat → Prop) (c : Clause) :
    c.wholeRun.Pairwise R := by
  rw [wholeRun]
  split
  · exact .nil
  · exact List.pairwise_singleton R _

theorem filter_singleton_eq_map_wholeRun (a b : Clause) :
    [a].filter (!·.isEmpty) = a.wholeRun.map (between (a ++ b)) := by
  rw [wholeRun]
  split
  · next hnil => simp [hnil]
  · next hne => simp [hne, between]

theorem between_behind (a b : Clause) (l : Lexeme) :
    between (a ++ l :: b) ∘ a.behind = between b := by
  funext positions
  have hlength : a.length + (1 + positions.2) - (a.length + (1 + positions.1)) =
      positions.2 - positions.1 := by
    omega
  simp only [Function.comp_apply, between, behind, List.extract_eq_take_drop, hlength]
  rw [← List.drop_drop, List.drop_left, Nat.add_comm 1, List.drop_succ_cons]

theorem mem_map_behind {runs : List (Nat × Nat)} : (start, stop) ∈ runs.map a.behind ↔
    ∃ s t, (s, t) ∈ runs ∧ start = a.length + (1 + s) ∧ stop = a.length + (1 + t) := by
  rw [List.mem_map]
  constructor
  · rintro ⟨⟨s, t⟩, hmem, heq⟩
    obtain ⟨rfl, rfl⟩ := Prod.mk.inj heq
    exact ⟨s, t, hmem, rfl, rfl⟩
  · rintro ⟨s, t, hmem, rfl, rfl⟩
    exact ⟨(s, t), hmem, rfl⟩

theorem pairwise_append_behind {runs : List (Nat × Nat)}
    (h : runs.Pairwise fun r s => r.2 < s.1) (a : Clause) :
    (a.wholeRun ++ runs.map a.behind).Pairwise fun r s => r.2 < s.1 := by
  refine List.pairwise_append.2 ⟨pairwise_wholeRun _ a, ?_, ?_⟩
  · rw [List.pairwise_map]
    exact h.imp fun hlt => Nat.add_lt_add_left (Nat.add_lt_add_left hlt 1) _
  · rintro ⟨start, stop⟩ hwhole s hs
    obtain ⟨r, -, rfl⟩ := List.mem_map.1 hs
    obtain ⟨-, -, rfl⟩ := mem_wholeRun.1 hwhole
    exact Nat.lt_add_of_pos_right (Nat.lt_add_right r.1 Nat.one_pos)

/-- The parts that are not empty stand at the runs, in the order of the clause. -/
theorem IsJoined.exists_runs {parts : List Clause} (h : IsJoined parts c)
    (hparts : ∀ part ∈ parts, Tidy NoComma 0 part) :
    ∃ runs : List (Nat × Nat), parts.filter (!·.isEmpty) = runs.map c.between ∧
      runs.Pairwise (fun r s => r.2 < s.1) ∧
      ∀ start stop, (start, stop) ∈ runs ↔ c.IsRun start stop := by
  induction h with
  | one c =>
      have hc := hparts c (List.mem_singleton_self c)
      refine ⟨c.wholeRun, ?_, pairwise_wholeRun _ c, fun start stop => ?_⟩
      · simpa using filter_singleton_eq_map_wholeRun c []
      · rw [mem_wholeRun, isRun_of_uncut hc.not_cutAt]
  | @cons a b parts l hl hrest ih =>
      have ha := hparts a List.mem_cons_self
      obtain ⟨runs, hmap, hpairwise, hmem⟩ :=
        ih fun part hpart => hparts part (List.mem_cons_of_mem a hpart)
      refine ⟨a.wholeRun ++ runs.map a.behind, ?_, pairwise_append_behind hpairwise a,
        fun start stop => ?_⟩
      · rw [← List.singleton_append, List.filter_append, hmap, List.map_append, List.map_map,
          filter_singleton_eq_map_wholeRun a (l :: b), between_behind]
      · rw [List.mem_append, mem_wholeRun, mem_map_behind,
          isRun_append_comma (balanced_iff.2 ha.balanced) hl ha.not_cutAt]
        simp only [hmem]

end Clause

open Clause

/-- The search for the end of a group, begun at an opening parenthesis, finds the least later
position up to which as many groups are closed as opened, and none exactly when there is none. The
parts of a clause whose parentheses match are its longest stretches without a comma outside all
groups, in order. They give the clause again when they are joined with commas, up to empty ones;
none of them is empty, their own parentheses match, and no comma stands outside their groups. The
parentheses of a table body match, and so do those of every clause taken from it. -/
theorem groups_and_parts_exact :
    (∀ (lexemes : Clause) (start : Nat) (hstart : start < lexemes.length),
      lexemes[start].token = .leftParen →
        ∃ close? : Option Nat, Walk.matchingParen lexemes start = .ok close? ∧
          closeGroup? 0 (lexemes.drop (start + 1)) = close?.map (fun close =>
            (lexemes.extract (start + 1) close, lexemes.drop (close + 1))) ∧
          (∀ close, close? = some close ↔ IsLeast {stop | lexemes.LevelAt start stop} close) ∧
          (close? = none ↔ ∀ stop, ¬ lexemes.LevelAt start stop)) ∧
      (∀ c : Clause, c.Balanced →
        (∃ runs : List (Nat × Nat), c.splitTopLevel = runs.map c.between ∧
          runs.Pairwise (fun r s => r.2 < s.1) ∧
          ∀ start stop, (start, stop) ∈ runs ↔ c.IsRun start stop) ∧
        (∃ parts, IsJoined parts c ∧ c.splitTopLevel = parts.filter (!·.isEmpty)) ∧
        ∀ part ∈ c.splitTopLevel, part ≠ [] ∧ part.Balanced ∧ ∀ i, ¬ part.CutAt i) ∧
      ∀ (c body : Clause) (name : String), tableHeader c = .ok (name, body) →
        body.Balanced ∧ ∀ clause ∈ body.splitTopLevel, clause.Balanced := by
  refine ⟨fun _ _ => exists_closing, fun c hc => ⟨?_, ?_, fun part hpart => ?_⟩,
    fun c body name hheader => ?_⟩
  · have hbalanced := balanced_iff.1 hc
    exact (isJoined_splitFrom [] 0 c).exists_runs fun _ => tidy_of_mem_splitFrom hbalanced
  · exact ⟨splitFrom [] 0 c, isJoined_splitFrom [] 0 c, rfl⟩
  · have htidy := tidy_of_mem_splitTopLevel (balanced_iff.1 hc) hpart
    have hne : part ≠ [] := by simpa using (List.mem_filter.1 hpart).2
    exact ⟨hne, balanced_iff.2 htidy.balanced, htidy.not_cutAt⟩
  · have hbody := Statement.DefinesColumn.isBalanced_of_tableHeader hheader
    refine ⟨balanced_iff.2 hbody, fun clause hclause => ?_⟩
    exact balanced_iff.2 (isBalanced_of_mem_splitTopLevel hbody hclause)

/-- The lexemes of `a (b, c),, d`, where one comma stands in a group and two follow each other. -/
def nestedBody : Clause :=
  [⟨.word "a", "a", .start, false⟩, ⟨.leftParen, "(", .start, true⟩,
    ⟨.word "b", "b", .start, false⟩, ⟨.comma, ",", .start, false⟩, ⟨.word "c", "c", .start, true⟩,
    ⟨.rightParen, ")", .start, false⟩, ⟨.comma, ",", .start, false⟩,
    ⟨.comma, ",", .start, false⟩, ⟨.word "d", "d", .start, true⟩]

/-- The lexemes of `t (a (b, c),, d)`. -/
def nestedTable : Clause :=
  ⟨.word "t", "t", .start, false⟩ :: ⟨.leftParen, "(", .start, true⟩ :: nestedBody ++
    [⟨.rightParen, ")", .start, false⟩]

theorem groups_and_parts_exact_nested :
    (1 < nestedTable.length ∧ nestedTable[1]?.any (·.token == .leftParen) = true) ∧
      IsLeast {stop | nestedTable.LevelAt 1 stop} 11 ∧
      nestedBody.Balanced ∧
      nestedBody.splitTopLevel = [nestedBody.take 6, nestedBody.drop 8] ∧
      (∃ runs : List (Nat × Nat), [nestedBody.take 6, nestedBody.drop 8] =
        runs.map nestedBody.between ∧ runs.Pairwise (fun r s => r.2 < s.1) ∧
        ∀ start stop, (start, stop) ∈ runs ↔ nestedBody.IsRun start stop) ∧
      (∀ i, ¬ CutAt (nestedBody.take 6) i) ∧
      tableHeader nestedTable = .ok ("t", nestedBody) ∧
      Balanced (nestedBody.take 6) := by
  obtain ⟨hgroup, hparts, htable⟩ := groups_and_parts_exact
  have hsplit : nestedBody.splitTopLevel = [nestedBody.take 6, nestedBody.drop 8] := by decide
  have hfirst : nestedBody.take 6 ∈ nestedBody.splitTopLevel := by decide
  have hheader : tableHeader nestedTable = .ok ("t", nestedBody) := by rfl
  obtain ⟨hbody, hclauses⟩ := htable nestedTable nestedBody "t" hheader
  obtain ⟨hruns, -, hpart⟩ := hparts nestedBody hbody
  obtain ⟨close?, hclose, -, hleast, -⟩ := hgroup nestedTable 1 (by decide) rfl
  have hfound : Walk.matchingParen nestedTable 1 = .ok (some 11) := by rfl
  obtain rfl := Except.ok.inj (hfound.symm.trans hclose)
  exact ⟨by decide, (hleast 11).1 rfl, hbody, hsplit, hsplit ▸ hruns, (hpart _ hfirst).2.2, hheader,
    hclauses _ hfirst⟩

end Ddl

end EntityRelation
