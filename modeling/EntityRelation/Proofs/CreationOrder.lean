import EntityRelation.Arrangement.Order
import Mathlib.Data.List.Lex
import Mathlib.Data.List.Nodup
import Mathlib.Data.Set.Finite.Basic
import Mathlib.Logic.Relation
import Mathlib.Order.WellFounded

/-!
# The least creation order

`CreationOrder.IsOrder` says that an order of the numbers below `n` puts the first of every pair
before the second. The search of `CreationOrder.find?` keeps `State.Sound`: every counter counts
the pairs whose first number has not been taken, and the ready numbers are those that nothing holds
back. Three facts follow. No counter is ever lowered below zero (`run?_start`), the order that is
found is the lexicographically least one (`find?_le`), and none is found exactly when the pairs go
round in a circle (`find?_eq_none_iff`).
-/

namespace EntityRelation

namespace CreationOrder

/-- An order of the numbers below `n` in which the first of every pair precedes the second. -/
structure IsOrder (n : Nat) (edges : List (Nat × Nat)) (order : List Nat) : Prop where
  perm : order.Perm (List.range n)
  before : ∀ edge ∈ edges, [edge.1, edge.2].Sublist order

/-- The first of a pair is followed by the second. -/
def Follows (edges : List (Nat × Nat)) (i j : Nat) : Prop :=
  (i, j) ∈ edges

/-- How many pairs hold a number back while some numbers have been taken. -/
def held (edges : List (Nat × Nat)) (taken : List Nat) (i : Nat) : Nat :=
  edges.countP fun edge => edge.2 == i && !taken.contains edge.1

theorem held_eq_zero_iff (edges : List (Nat × Nat)) (taken : List Nat) (i : Nat) :
    held edges taken i = 0 ↔ ∀ edge ∈ edges, edge.2 = i → edge.1 ∈ taken := by
  simp [held, List.countP_eq_zero]

theorem held_nil (edges : List (Nat × Nat)) (i : Nat) :
    held edges [] i = edges.countP (·.2 == i) := by
  simp [held]

theorem held_edge (p c : Nat) (edges : List (Nat × Nat)) (taken : List Nat) (i : Nat) :
    held ((p, c) :: edges) taken i =
      held edges taken i + if c = i ∧ p ∉ taken then 1 else 0 := by
  simp [held, List.countP_cons]

theorem count_children_edge (p c : Nat) (edges : List (Nat × Nat)) (parent i : Nat) :
    (children ((p, c) :: edges) parent).count i =
      (children edges parent).count i + if p = parent ∧ c = i then 1 else 0 := by
  by_cases hp : p = parent
  · simp [children, hp, List.count_cons]
  · simp [children, hp]

/-- Taking a number releases the pairs that start with it. -/
theorem held_eq_add (edges : List (Nat × Nat)) (taken : List Nat) (next i : Nat)
    (hnext : next ∉ taken) :
    held edges taken i = held edges (next :: taken) i + (children edges next).count i := by
  induction edges with
  | nil => simp [held, children]
  | cons edge rest ih =>
      obtain ⟨p, c⟩ := edge
      rw [held_edge, held_edge, count_children_edge, ih]
      by_cases hp : p = next
      · subst hp
        simp [hnext]
        omega
      · simp [hp]
        omega

theorem mem_children (edges : List (Nat × Nat)) (parent i : Nat) :
    i ∈ children edges parent ↔ (parent, i) ∈ edges := by
  simp [children]

/-! ## Keeping the ready numbers sorted -/

theorem mem_insertSorted (i j : Nat) (js : List Nat) :
    i ∈ insertSorted j js ↔ i = j ∨ i ∈ js := by
  induction js with
  | nil => simp [insertSorted]
  | cons k rest ih =>
      by_cases h : j ≤ k
      · simp [insertSorted, h]
      · simp only [insertSorted, h, if_false, List.mem_cons, ih]
        tauto

theorem insertSorted_pairwise (j : Nat) (js : List Nat) (hjs : js.Pairwise (· < ·))
    (hj : j ∉ js) : (insertSorted j js).Pairwise (· < ·) := by
  induction js with
  | nil => simp [insertSorted]
  | cons k rest ih =>
      obtain ⟨hk, hrest⟩ := List.pairwise_cons.1 hjs
      have hne : j ≠ k := fun h => hj (h ▸ List.mem_cons_self)
      have hnot : j ∉ rest := fun h => hj (List.mem_cons_of_mem k h)
      by_cases h : j ≤ k
      · simp only [insertSorted, h, if_true]
        refine List.pairwise_cons.2 ⟨?_, hjs⟩
        intro i hi
        rcases List.mem_cons.1 hi with rfl | hi
        · omega
        · have := hk i hi
          omega
      · simp only [insertSorted, h, if_false]
        refine List.pairwise_cons.2 ⟨?_, ih hrest hnot⟩
        intro i hi
        rcases (mem_insertSorted i j rest).1 hi with rfl | hi
        · omega
        · exact hk i hi

/-! ## Releasing children -/

/-- How many pairs hold a number back, as the state counts them. -/
def State.counter (st : State) (i : Nat) : Nat :=
  st.pending.getD i 0

/-- A release that fails when nothing is left to release. -/
def State.release? (st : State) (child : Nat) : Option State :=
  if 0 < st.counter child then some (st.release child) else none

/-- The search with releases that may fail. -/
def run? (edges : List (Nat × Nat)) : Nat → State → Option State
  | 0, st => some st
  | steps + 1, st =>
    match st.ready with
    | [] => some st
    | next :: rest =>
      let st := { st with ready := rest, taken := next :: st.taken }
      ((children edges next).foldlM State.release? st).bind (run? edges steps)

namespace State

theorem ready_release (st : State) (child : Nat) :
    (st.release child).ready =
      if st.counter child - 1 = 0 then insertSorted child st.ready else st.ready := rfl

theorem length_pending_release (st : State) (child : Nat) :
    (st.release child).pending.length = st.pending.length := by
  simp [release]

theorem counter_release (st : State) (child i : Nat) (h : child < st.pending.length) :
    (st.release child).counter i = if i = child then st.counter i - 1 else st.counter i := by
  by_cases hi : i = child
  · subst hi
    simp [release, counter, List.getD_eq_getElem?_getD, h]
  · have hne : child ≠ i := fun he => hi he.symm
    simp [release, counter, List.getD_eq_getElem?_getD, hi, List.getElem?_set_ne hne]

theorem mem_ready_release (st : State) (child i : Nat) (h : 0 < st.counter child) :
    i ∈ (st.release child).ready ↔ i ∈ st.ready ∨ i = child ∧ st.counter child = 1 := by
  rw [ready_release]
  by_cases hone : st.counter child = 1
  · simp [hone, mem_insertSorted, or_comm]
  · have hleft : st.counter child - 1 ≠ 0 := by omega
    simp [hone, hleft]

theorem ready_release_pairwise (st : State) (child : Nat) (hst : st.ready.Pairwise (· < ·))
    (h : child ∉ st.ready) : (st.release child).ready.Pairwise (· < ·) := by
  rw [ready_release]
  split
  · exact insertSorted_pairwise child st.ready hst h
  · exact hst

theorem release?_eq_some (st : State) (child : Nat) (h : 0 < st.counter child) :
    st.release? child = some (st.release child) := by
  simp [release?, h]

end State

/-- What the release of some children does to a state. -/
structure Released (st : State) (cs : List Nat) (st' : State) : Prop where
  taken : st'.taken = st.taken
  length : st'.pending.length = st.pending.length
  counter : ∀ i, st'.counter i = st.counter i - cs.count i
  sorted : st'.ready.Pairwise (· < ·)
  ready : ∀ i, i ∈ st'.ready ↔ i ∈ st.ready ∨ i ∈ cs ∧ st.counter i = cs.count i

theorem Released.nil (st : State) (h : st.ready.Pairwise (· < ·)) : Released st [] st :=
  ⟨rfl, rfl, by simp, h, by simp⟩

/-- One release followed by others. -/
theorem Released.cons {st st' : State} {c : Nat} {cs : List Nat} (hc : c < st.pending.length)
    (hpos : cs.count c < st.counter c) (hready : c ∉ st.ready)
    (h : Released (st.release c) cs st') : Released st (c :: cs) st' where
  taken := h.taken
  length := h.length.trans (st.length_pending_release c)
  sorted := h.sorted
  counter := by
    intro i
    rw [h.counter, st.counter_release c i hc]
    by_cases hi : i = c
    · subst hi
      simp only [if_true, List.count_cons_self]
      omega
    · have hne : c ≠ i := fun he => hi he.symm
      simp [hi, List.count_cons_of_ne hne]
  ready := by
    intro i
    rw [h.ready, st.mem_ready_release c i (by omega), st.counter_release c i hc]
    by_cases hi : i = c
    · subst hi
      have hmem : i ∈ cs ↔ 0 < cs.count i := List.count_pos_iff.symm
      simp only [if_true, List.count_cons_self, List.mem_cons, true_or, true_and, hready,
        false_or, hmem]
      omega
    · have hne : c ≠ i := fun he => hi he.symm
      simp [hi, List.count_cons_of_ne hne]

/-- Children whose counters cover them can be released one after the other, and no release fails.
A child is ready when its counter has been used up. -/
theorem released_foldl (cs : List Nat) (st : State) (hlt : ∀ c ∈ cs, c < st.pending.length)
    (hcount : ∀ i ∈ cs, cs.count i ≤ st.counter i) (hsorted : st.ready.Pairwise (· < ·))
    (hzero : ∀ i ∈ st.ready, st.counter i = 0) :
    Released st cs (cs.foldl State.release st) ∧
      cs.foldlM State.release? st = some (cs.foldl State.release st) := by
  induction cs generalizing st with
  | nil => exact ⟨Released.nil st hsorted, rfl⟩
  | cons c cs ih =>
      have hc : c < st.pending.length := hlt c List.mem_cons_self
      have hpos : cs.count c < st.counter c := by
        have := hcount c List.mem_cons_self
        rw [List.count_cons_self] at this
        omega
      have hready : c ∉ st.ready := by
        intro hmem
        have := hzero c hmem
        omega
      have hrest := ih (st.release c)
        (by
          intro i hi
          rw [State.length_pending_release]
          exact hlt i (List.mem_cons_of_mem c hi))
        (by
          intro i hi
          have := hcount i (List.mem_cons_of_mem c hi)
          rw [st.counter_release c i hc]
          by_cases h : i = c
          · subst h
            simp only [if_true]
            omega
          · have hne : c ≠ i := fun he => h he.symm
            simpa [h, List.count_cons_of_ne hne] using this)
        (st.ready_release_pairwise c hsorted hready)
        (by
          intro i hi
          rw [st.counter_release c i hc]
          rcases (st.mem_ready_release c i (by omega)).1 hi with h | ⟨rfl, h⟩
          · have hne : i ≠ c := fun he => hready (he ▸ h)
            simpa [hne] using hzero i h
          · simp [h])
      refine ⟨Released.cons hc hpos hready hrest.1, ?_⟩
      rw [List.foldlM_cons, st.release?_eq_some c (by omega)]
      exact hrest.2

/-! ## Taking one number -/

/-- The state after a ready number has been taken. -/
def State.take (edges : List (Nat × Nat)) (st : State) (next : Nat) (rest : List Nat) : State :=
  (children edges next).foldl State.release
    { st with ready := rest, taken := next :: st.taken }

/-- The invariant of the search: counters count what holds a number back, the ready numbers are
those that nothing holds back, and whatever has been taken comes after what it waited for. -/
structure State.Sound (n : Nat) (edges : List (Nat × Nat)) (st : State) : Prop where
  nodup : st.taken.Nodup
  lt : ∀ i ∈ st.taken, i < n
  length : st.pending.length = n
  counter : ∀ i < n, st.counter i = held edges st.taken i
  sorted : st.ready.Pairwise (· < ·)
  ready : ∀ i, i ∈ st.ready ↔ i < n ∧ i ∉ st.taken ∧ held edges st.taken i = 0
  before : ∀ edge ∈ edges, edge.2 ∈ st.taken → [edge.1, edge.2].Sublist st.taken.reverse

/-- Pairs of numbers below `n`. -/
def Bounded (n : Nat) (edges : List (Nat × Nat)) : Prop :=
  ∀ edge ∈ edges, edge.1 < n ∧ edge.2 < n

variable {n : Nat} {edges : List (Nat × Nat)}

theorem start_sound (n : Nat) (edges : List (Nat × Nat)) : (start n edges).Sound n edges where
  nodup := List.nodup_nil
  lt := by simp [start]
  length := by simp [start]
  counter := by
    intro i hi
    rw [show (start n edges).taken = [] from rfl, held_nil]
    simp [start, State.counter, hi]
  sorted := List.Pairwise.filter _ List.pairwise_lt_range
  ready := by
    intro i
    rw [show (start n edges).taken = [] from rfl, held_nil]
    simp +contextual [start]
  before := by simp [start]

/-- The numbers released by a ready one: none of them has been taken. -/
theorem State.Sound.not_mem_taken {st : State} (h : st.Sound n edges) {next i : Nat}
    (hnext : next ∉ st.taken) (hi : i ∈ children edges next) : i ∉ st.taken := by
  intro hmem
  have hsub := h.before (next, i) ((mem_children edges next i).1 hi) hmem
  exact hnext (List.mem_reverse.1 (hsub.subset List.mem_cons_self))

theorem State.Sound.released (hb : Bounded n edges) {st : State} (h : st.Sound n edges)
    {next : Nat} {rest : List Nat} (hr : st.ready = next :: rest) :
    Released { st with ready := rest, taken := next :: st.taken } (children edges next)
        (st.take edges next rest) ∧
      (children edges next).foldlM State.release?
          { st with ready := rest, taken := next :: st.taken } =
        some (st.take edges next rest) := by
  have hnext : next ∉ st.taken := ((h.ready next).1 (by simp [hr])).2.1
  have hchild : ∀ c ∈ children edges next, c < n := fun c hc =>
    (hb _ ((mem_children edges next c).1 hc)).2
  refine released_foldl (children edges next) _ ?_ ?_ ?_ ?_
  · intro c hc
    rw [h.length]
    exact hchild c hc
  · intro i hi
    change _ ≤ st.counter i
    rw [h.counter i (hchild i hi), held_eq_add edges st.taken next i hnext]
    exact Nat.le_add_left _ _
  · exact (List.pairwise_cons.1 (hr ▸ h.sorted)).2
  · intro i hi
    obtain ⟨hlt, -, hheld⟩ := (h.ready i).1 (by simp only [hr]; exact List.mem_cons_of_mem next hi)
    change st.counter i = 0
    rw [h.counter i hlt, hheld]

/-- Taking the least ready number keeps the invariant. -/
theorem State.Sound.take (hb : Bounded n edges) {st : State} (h : st.Sound n edges)
    {next : Nat} {rest : List Nat} (hr : st.ready = next :: rest) :
    (st.take edges next rest).Sound n edges := by
  obtain ⟨hlt, hnext, hheld⟩ := (h.ready next).1 (by simp [hr])
  have hrel := (h.released hb hr).1
  have hsplit := fun i => held_eq_add edges st.taken next i hnext
  have hself : next ∉ children edges next := by
    intro hmem
    have := (held_eq_zero_iff edges st.taken next).1 hheld _ ((mem_children edges next next).1 hmem)
    exact hnext (this rfl)
  have hrest : ∀ i, i ∈ rest ↔ i ∈ st.ready ∧ i ≠ next := by
    intro i
    have hsorted := (List.pairwise_cons.1 (hr ▸ h.sorted)).1
    rw [hr, List.mem_cons]
    constructor
    · intro hi
      have := hsorted i hi
      exact ⟨Or.inr hi, by omega⟩
    · rintro ⟨rfl | hi, hne⟩
      · exact absurd rfl hne
      · exact hi
  have htaken : (st.take edges next rest).taken = next :: st.taken := hrel.taken
  refine ⟨?_, ?_, hrel.length.trans h.length, ?_, hrel.sorted, ?_, ?_⟩
  · rw [htaken]
    exact List.nodup_cons.2 ⟨hnext, h.nodup⟩
  · rw [htaken]
    intro i hi
    rcases List.mem_cons.1 hi with rfl | hi
    · exact hlt
    · exact h.lt i hi
  · intro i hi
    rw [htaken, hrel.counter]
    change st.counter i - _ = _
    rw [h.counter i hi, hsplit i, Nat.add_sub_cancel]
  · intro i
    rw [htaken, hrel.ready, List.mem_cons, not_or]
    change i ∈ rest ∨ _ ∧ st.counter i = _ ↔ _
    rw [hrest, h.ready]
    constructor
    · rintro (⟨⟨hi, hnot, hzero⟩, hne⟩ | ⟨hmem, hcount⟩)
      · exact ⟨hi, ⟨hne, hnot⟩, by have := hsplit i; omega⟩
      · have hi := (hb _ ((mem_children edges next i).1 hmem)).2
        rw [h.counter i hi, hsplit i] at hcount
        refine ⟨hi, ⟨fun he => hself (he ▸ hmem), h.not_mem_taken hnext hmem⟩, by omega⟩
    · rintro ⟨hi, ⟨hne, hnot⟩, hzero⟩
      by_cases hmem : i ∈ children edges next
      · exact Or.inr ⟨hmem, by rw [h.counter i hi, hsplit i, hzero, Nat.zero_add]⟩
      · have hnone : (children edges next).count i = 0 := List.count_eq_zero.2 hmem
        exact Or.inl ⟨⟨hi, hnot, by rw [hsplit i, hzero, hnone]⟩, hne⟩
  · rw [htaken, List.reverse_cons]
    intro edge hedge hmem
    rcases List.mem_cons.1 hmem with heq | hmem
    · have hparent := (held_eq_zero_iff edges st.taken next).1 hheld edge hedge heq
      have hfirst : [edge.1].Sublist st.taken.reverse :=
        List.singleton_sublist.2 (List.mem_reverse.2 hparent)
      rw [heq]
      exact hfirst.append (List.Sublist.refl [next])
    · exact (h.before edge hedge hmem).trans (List.sublist_append_left _ _)

/-! ## The whole search -/

theorem run_of_ready_nil (edges : List (Nat × Nat)) (steps : Nat) (st : State)
    (hr : st.ready = []) : run edges steps st = st := by
  cases steps with
  | zero => rfl
  | succ steps => simp [run, hr]

theorem run_of_ready_cons (edges : List (Nat × Nat)) (steps : Nat) (st : State) {next : Nat}
    {rest : List Nat} (hr : st.ready = next :: rest) :
    run edges (steps + 1) st = run edges steps (st.take edges next rest) := by
  simp [run, hr, State.take]

theorem taken_take (hb : Bounded n edges) {st : State} (h : st.Sound n edges) {next : Nat}
    {rest : List Nat} (hr : st.ready = next :: rest) :
    (st.take edges next rest).taken = next :: st.taken :=
  (h.released hb hr).1.taken

/-- The search keeps the invariant. -/
theorem run_sound (hb : Bounded n edges) (steps : Nat) {st : State} (h : st.Sound n edges) :
    (run edges steps st).Sound n edges := by
  induction steps generalizing st with
  | zero => exact h
  | succ steps ih =>
      cases hr : st.ready with
      | nil =>
          rw [run_of_ready_nil edges _ st hr]
          exact h
      | cons next rest =>
          rw [run_of_ready_cons edges steps st hr]
          exact ih (h.take hb hr)

/-- No release of the search fails: no counter is lowered below zero. -/
theorem run?_eq_some (hb : Bounded n edges) (steps : Nat) {st : State} (h : st.Sound n edges) :
    run? edges steps st = some (run edges steps st) := by
  induction steps generalizing st with
  | zero => rfl
  | succ steps ih =>
      cases hr : st.ready with
      | nil => simp [run?, run, hr]
      | cons next rest =>
          rw [run_of_ready_cons edges steps st hr, ← ih (h.take hb hr)]
          simp only [run?, hr]
          rw [(h.released hb hr).2]
          rfl

/-- The search goes on until its steps are used up or nothing is ready. -/
theorem run_progress (hb : Bounded n edges) (steps : Nat) {st : State} (h : st.Sound n edges) :
    (run edges steps st).ready = [] ∨
      (run edges steps st).taken.length = st.taken.length + steps := by
  induction steps generalizing st with
  | zero => exact Or.inr rfl
  | succ steps ih =>
      cases hr : st.ready with
      | nil =>
          rw [run_of_ready_nil edges _ st hr]
          exact Or.inl hr
      | cons next rest =>
          rw [run_of_ready_cons edges steps st hr]
          refine (ih (h.take hb hr)).imp_right fun hlen => ?_
          rw [hlen, taken_take hb h hr, List.length_cons]
          omega

/-- What has been taken stays taken. -/
theorem taken_suffix_run (hb : Bounded n edges) (steps : Nat) {st : State}
    (h : st.Sound n edges) : st.taken <:+ (run edges steps st).taken := by
  induction steps generalizing st with
  | zero => exact List.suffix_refl _
  | succ steps ih =>
      cases hr : st.ready with
      | nil =>
          rw [run_of_ready_nil edges _ st hr]
      | cons next rest =>
          rw [run_of_ready_cons edges steps st hr]
          have hsuffix := ih (h.take hb hr)
          rw [taken_take hb h hr] at hsuffix
          exact (List.suffix_cons next st.taken).trans hsuffix

/-! ## Orders -/

theorem IsOrder.nodup {order : List Nat} (h : IsOrder n edges order) : order.Nodup :=
  h.perm.nodup_iff.2 List.nodup_range

theorem IsOrder.mem_iff {order : List Nat} (h : IsOrder n edges order) (i : Nat) :
    i ∈ order ↔ i < n := by
  rw [h.perm.mem_iff, List.mem_range]

/-- In a list without repetition, what stands before stands at a smaller index. -/
theorem idxOf_lt_of_sublist {order : List Nat} (h : order.Nodup) {i j : Nat}
    (hij : [i, j].Sublist order) : order.idxOf i < order.idxOf j := by
  have hpair : order.Pairwise fun a b => order.idxOf a < order.idxOf b := by
    rw [List.pairwise_iff_getElem]
    intro a b ha hb hab
    rw [h.idxOf_getElem a ha, h.idxOf_getElem b hb]
    exact hab
  exact hpair.forall_sublist hij

/-- Pairs that go round in a circle have no order. -/
theorem IsOrder.acyclic {order : List Nat} (h : IsOrder n edges order) (i : Nat) :
    ¬ Relation.TransGen (Follows edges) i i := by
  have hlt : ∀ j, Relation.TransGen (Follows edges) i j → order.idxOf i < order.idxOf j := by
    intro j hj
    induction hj with
    | single hij => exact idxOf_lt_of_sublist h.nodup (h.before _ hij)
    | tail _ hjk ih => exact ih.trans (idxOf_lt_of_sublist h.nodup (h.before _ hjk))
  intro hi
  exact lt_irrefl _ (hlt i hi)

/-- When all numbers have been taken, they have been taken in an order. -/
theorem State.Sound.isOrder (hb : Bounded n edges) {st : State} (h : st.Sound n edges)
    (hlen : st.taken.length = n) : IsOrder n edges st.taken.reverse := by
  have hsub : st.taken.Subperm (List.range n) :=
    List.subperm_of_subset h.nodup fun i hi => List.mem_range.2 (h.lt i hi)
  have hperm : st.taken.Perm (List.range n) :=
    hsub.perm_of_length_le (by rw [List.length_range, hlen])
  refine ⟨(List.reverse_perm _).trans hperm, fun edge hedge => h.before edge hedge ?_⟩
  rw [hperm.mem_iff, List.mem_range]
  exact (hb edge hedge).2

/-- When nothing is ready any more and the pairs do not go round in a circle, every number has been
taken: among the numbers left over, one that waits for none of the others would be ready. -/
theorem State.Sound.mem_taken (hb : Bounded n edges) {st : State} (h : st.Sound n edges)
    (hr : st.ready = []) (hac : ∀ i, ¬ Relation.TransGen (Follows edges) i i) {i : Nat}
    (hi : i < n) : i ∈ st.taken := by
  by_contra hnot
  let waits : Fin n → Fin n → Prop := fun a b => Relation.TransGen (Follows edges) a b
  have : IsTrans (Fin n) waits := ⟨fun _ _ _ hab hbc => hab.trans hbc⟩
  have : Std.Irrefl waits := ⟨fun a => hac a⟩
  have hwf : WellFounded waits := Finite.wellFounded_of_trans_of_irrefl waits
  obtain ⟨m, hm, hmin⟩ := hwf.has_min {a : Fin n | a.val ∉ st.taken} ⟨⟨i, hi⟩, hnot⟩
  have hheld : held edges st.taken m = 0 := by
    rw [held_eq_zero_iff]
    intro edge hedge heq
    by_contra hparent
    refine hmin ⟨edge.1, (hb edge hedge).1⟩ hparent (Relation.TransGen.single ?_)
    rw [← heq]
    exact hedge
  have hmem : m.val ∈ st.ready := (h.ready m).2 ⟨m.isLt, hm, hheld⟩
  rw [hr] at hmem
  cases hmem

/-- An order that starts with what has been taken goes on with a ready number. -/
theorem State.Sound.ready_of_order {st : State} (h : st.Sound n edges) {order tail : List Nat}
    (ho : IsOrder n edges order) {x : Nat} (heq : order = st.taken.reverse ++ x :: tail) :
    x ∈ st.ready := by
  have hnodup := ho.nodup
  have hx : x < n := (ho.mem_iff x).1 (by simp [heq])
  rw [heq] at hnodup
  have hnot : x ∉ st.taken := by
    intro hmem
    exact (List.nodup_append.1 hnodup).2.2 x (List.mem_reverse.2 hmem) x List.mem_cons_self rfl
  refine (h.ready x).2 ⟨hx, hnot, ?_⟩
  rw [held_eq_zero_iff]
  intro edge hedge hchild
  have hsub := ho.before edge hedge
  rw [hchild, heq] at hsub
  by_contra hparent
  have hidx := idxOf_lt_of_sublist hnodup hsub
  have hxnot : x ∉ st.taken.reverse := fun hmem => hnot (List.mem_reverse.1 hmem)
  have hpnot : edge.1 ∉ st.taken.reverse := fun hmem => hparent (List.mem_reverse.1 hmem)
  rw [List.idxOf_append_of_notMem hxnot, List.idxOf_append_of_notMem hpnot,
    List.idxOf_cons_self] at hidx
  omega

/-- What the search takes is at most any order that starts with what has been taken so far. -/
theorem run_le (hb : Bounded n edges) (steps : Nat) {st : State} (h : st.Sound n edges)
    {order : List Nat} (ho : IsOrder n edges order) (hstart : st.taken.reverse <+: order) :
    (run edges steps st).taken.reverse ≤ order := by
  induction steps generalizing st with
  | zero => exact not_lt.1 hstart.le
  | succ steps ih =>
      cases hr : st.ready with
      | nil =>
          rw [run_of_ready_nil edges _ st hr]
          exact not_lt.1 hstart.le
      | cons next rest =>
          rw [run_of_ready_cons edges steps st hr]
          have htake := h.take hb hr
          have htaken := taken_take hb h hr
          obtain ⟨tail, htail⟩ := hstart
          obtain ⟨hlt, hnext, -⟩ := (h.ready next).1 (by simp [hr])
          cases tail with
          | nil =>
              have hmem := (ho.mem_iff next).2 hlt
              rw [← htail, List.append_nil, List.mem_reverse] at hmem
              exact absurd hmem hnext
          | cons x tail =>
              have hx := h.ready_of_order ho htail.symm
              have hle : next ≤ x := by
                rw [hr] at hx
                rcases List.mem_cons.1 hx with rfl | hx
                · exact le_refl x
                · exact Nat.le_of_lt ((List.pairwise_cons.1 (hr ▸ h.sorted)).1 x hx)
              rcases Nat.lt_or_eq_of_le hle with hltx | rfl
              -- The orders part here, and the search has taken the smaller number.
              · obtain ⟨later, hlater⟩ := taken_suffix_run hb steps htake
                rw [htaken] at hlater
                have hfinal : (run edges steps (st.take edges next rest)).taken.reverse =
                    st.taken.reverse ++ next :: later.reverse := by
                  rw [← hlater]
                  simp
                rw [hfinal, ← htail]
                exact le_of_lt (List.append_left_lt (List.Lex.rel hltx))
              · refine ih htake ?_
                rw [htaken, List.reverse_cons, ← htail]
                exact ⟨tail, by simp⟩

/-! ## The order that is found -/

/-- The search from its first state never lowers a counter below zero. -/
theorem run?_start (hb : Bounded n edges) :
    run? edges n (start n edges) = some (run edges n (start n edges)) :=
  run?_eq_some hb n (start_sound n edges)

theorem find?_isOrder (hb : Bounded n edges) {order : List Nat}
    (h : find? n edges = some order) : IsOrder n edges order := by
  simp only [find?] at h
  split at h
  · next hlen =>
      obtain rfl := Option.some.inj h
      exact (run_sound hb n (start_sound n edges)).isOrder hb hlen
  · cases h

theorem find?_le (hb : Bounded n edges) {order other : List Nat}
    (h : find? n edges = some order) (ho : IsOrder n edges other) : order ≤ other := by
  simp only [find?] at h
  split at h
  · obtain rfl := Option.some.inj h
    exact run_le hb n (start_sound n edges) ho (by simp [start])
  · cases h

theorem find?_eq_none_iff (hb : Bounded n edges) :
    find? n edges = none ↔ ∃ i, Relation.TransGen (Follows edges) i i := by
  constructor
  · intro hnone
    by_contra hcyc
    have hac : ∀ i, ¬ Relation.TransGen (Follows edges) i i := fun i hi => hcyc ⟨i, hi⟩
    have hsound := run_sound hb n (start_sound n edges)
    have hlen : (run edges n (start n edges)).taken.length = n := by
      rcases run_progress hb n (start_sound n edges) with hr | hlen
      · refine le_antisymm ?_ ?_
        · simpa using (List.subperm_of_subset hsound.nodup fun i hi =>
            List.mem_range.2 (hsound.lt i hi)).length_le
        · simpa using (List.subperm_of_subset List.nodup_range fun i hi =>
            hsound.mem_taken hb hr hac (List.mem_range.1 hi)).length_le
      · simpa [start] using hlen
    simp [find?, hlen] at hnone
  · rintro ⟨i, hi⟩
    cases h : find? n edges with
    | none => rfl
    | some order => exact absurd hi ((find?_isOrder hb h).acyclic i)

end CreationOrder

end EntityRelation
