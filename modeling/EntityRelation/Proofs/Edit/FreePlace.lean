import EntityRelation.Proofs.Decimal.FloatOrder
import EntityRelation.Proofs.Edit.Entity
import Mathlib

/-!
# A free name and a free slot for a new table

There is one candidate more for the name of a new table than there are tables, and no two candidates
are the same, so the search for a name ends with the first free one. A table covers at most two
columns and two rows of the grid, so at most four slots (`Slot.card_le_four`), and of one slot more
than four times the number of tables one is free. As far as the arithmetic of the coordinates is
exact (`Schema.ExactPlaces`), the new table is put on the first free slot (`addEntity_free`).
-/

namespace EntityRelation

namespace Slot

/-- A table on the slot would overlap a table at the place. -/
def Covers (p : ℚ × ℚ) (i : ℕ) : Prop :=
  |(place i).1 - p.1| < tableWidth ∧ |(place i).2 - p.2| < tableHeight

instance (p : ℚ × ℚ) (i : ℕ) : Decidable (Covers p i) :=
  inferInstanceAs (Decidable (_ ∧ _))

/-- Numbers that are at most one apart are at most two numbers. -/
theorem card_le_two {S : Finset ℕ} (h : ∀ a ∈ S, ∀ b ∈ S, a ≤ b + 1) : S.card ≤ 2 := by
  rcases S.eq_empty_or_nonempty with rfl | hne
  · simp
  · have hsub : S ⊆ {S.min' hne, S.min' hne + 1} := by
      intro a ha
      have hmin := S.min'_le a ha
      have hmax := h a ha _ (S.min'_mem hne)
      rw [Finset.mem_insert, Finset.mem_singleton]
      omega
    exact (Finset.card_le_card hsub).trans Finset.card_le_two

/-- Two columns or rows of a grid that are near to the same coordinate are neighbours. -/
theorem le_succ_of_near {a b pitch bound : ℕ} {x : ℚ} (hpitch : 2 * bound ≤ 2 * pitch)
    (ha : |((100 + a * pitch : ℕ) : ℚ) - x| < bound)
    (hb : |((100 + b * pitch : ℕ) : ℚ) - x| < bound) : a ≤ b + 1 := by
  have ha' := (abs_lt.1 ha).2
  have hb' := (abs_lt.1 hb).1
  have hlt : ((100 + a * pitch : ℕ) : ℚ) < ((100 + b * pitch + 2 * bound : ℕ) : ℚ) := by
    push_cast at ha' hb' ⊢
    linarith
  have hnat : 100 + a * pitch < 100 + b * pitch + 2 * bound := Nat.cast_lt.1 hlt
  by_contra hfar
  have hmul : (b + 2) * pitch ≤ a * pitch := Nat.mul_le_mul_right _ (by omega)
  rw [Nat.add_mul] at hmul
  omega

/-- A table covers at most two columns and two rows. -/
theorem card_le_four {p : ℚ × ℚ} {S : Finset ℕ} (h : ∀ i ∈ S, Covers p i) : S.card ≤ 4 := by
  have hcolumns : (S.image (· % perRow)).card ≤ 2 := by
    refine card_le_two fun a ha b hb => ?_
    obtain ⟨i, hi, rfl⟩ := Finset.mem_image.1 ha
    obtain ⟨j, hj, rfl⟩ := Finset.mem_image.1 hb
    exact le_succ_of_near (by decide) (h i hi).1 (h j hj).1
  have hrows : (S.image (· / perRow)).card ≤ 2 := by
    refine card_le_two fun a ha b hb => ?_
    obtain ⟨i, hi, rfl⟩ := Finset.mem_image.1 ha
    obtain ⟨j, hj, rfl⟩ := Finset.mem_image.1 hb
    exact le_succ_of_near (by decide) (h i hi).2 (h j hj).2
  have hinj : Set.InjOn (fun i => (i % perRow, i / perRow)) (S : Set ℕ) := by
    intro i _ j _ hij
    obtain ⟨hmod, hdiv⟩ := Prod.mk.inj hij
    rw [← Nat.mod_add_div i perRow, ← Nat.mod_add_div j perRow, hmod, hdiv]
  calc S.card = (S.image fun i => (i % perRow, i / perRow)).card :=
        (Finset.card_image_of_injOn hinj).symm
    _ ≤ (S.image (· % perRow) ×ˢ S.image (· / perRow)).card := by
        refine Finset.card_le_card fun cell hcell => ?_
        obtain ⟨i, hi, rfl⟩ := Finset.mem_image.1 hcell
        exact Finset.mem_product.2 ⟨Finset.mem_image_of_mem _ hi, Finset.mem_image_of_mem _ hi⟩
    _ = (S.image (· % perRow)).card * (S.image (· / perRow)).card := Finset.card_product _ _
    _ ≤ 2 * 2 := Nat.mul_le_mul hcolumns hrows

/-- Tables cover at most four slots each. -/
theorem card_le_of_covered {places : List (ℚ × ℚ)} {S : Finset ℕ}
    (h : ∀ i ∈ S, ∃ p ∈ places, Covers p i) : S.card ≤ 4 * places.length := by
  classical
  induction places generalizing S with
  | nil =>
      have hempty : S = ∅ := Finset.eq_empty_of_forall_notMem fun i hi => by simpa using h i hi
      simp [hempty]
  | cons p places ih =>
      have hfirst : (S.filter (Covers p)).card ≤ 4 :=
        card_le_four fun i hi => (Finset.mem_filter.1 hi).2
      have hrest : (S.filter fun i => ¬Covers p i).card ≤ 4 * places.length := by
        refine ih fun i hi => ?_
        obtain ⟨hmem, hnot⟩ := Finset.mem_filter.1 hi
        obtain ⟨q, hq, hcovers⟩ := h i hmem
        rcases List.mem_cons.1 hq with rfl | hq
        · exact absurd hcovers hnot
        · exact ⟨q, hq, hcovers⟩
      have hsplit := Finset.card_filter_add_card_filter_not (s := S) (Covers p)
      rw [List.length_cons]
      omega

theorem exists_free (places : List (ℚ × ℚ)) :
    ∃ i ≤ 4 * places.length, ∀ p ∈ places, ¬Covers p i := by
  by_contra hnone
  push Not at hnone
  have hcard : (Finset.range (4 * places.length + 1)).card ≤ 4 * places.length :=
    card_le_of_covered fun i hi => hnone i (Nat.lt_succ_iff.1 (Finset.mem_range.1 hi))
  rw [Finset.card_range] at hcard
  omega

section

variable {α : Type} [Sub α] [LT α] [DecidableLT α]

/-- Where the arithmetic tells right which slots are free, the first free slot is found before the
search gives up. -/
theorem firstFree_isLeast {ofNat : ℕ → α} {places : List (α × α)} (exact : α × α → ℚ × ℚ)
    (h : ∀ i ≤ 4 * places.length,
      isFree ofNat places i = true ↔ ∀ p ∈ places, ¬Covers (exact p) i) :
    firstFree ofNat places ≤ 4 * places.length ∧
      IsLeast {i | ∀ p ∈ places, ¬Covers (exact p) i} (firstFree ofNat places) := by
  have hlength : (places.map exact).length = places.length := List.length_map _
  obtain ⟨i, hi, hfree⟩ := exists_free (places.map exact)
  rw [hlength] at hi
  have hfree' : ∀ p ∈ places, ¬Covers (exact p) i := fun p hp =>
    hfree _ (List.mem_map_of_mem hp)
  cases hfind : (List.range (4 * places.length + 1)).find? (isFree ofNat places) with
  | none =>
      have hnot := List.find?_eq_none.1 hfind i (List.mem_range.2 (Nat.lt_succ_of_le hi))
      exact absurd ((h i hi).2 hfree') hnot
  | some first =>
      obtain ⟨hfirst, hmem, hbefore⟩ := List.find?_range_eq_some.1 hfind
      have hle : first ≤ 4 * places.length := Nat.lt_succ_iff.1 (List.mem_range.1 hmem)
      have heq : firstFree ofNat places = first := by
        rw [firstFree, hfind]
        rfl
      rw [heq]
      refine ⟨hle, (h first hle).1 hfirst, fun j hj => ?_⟩
      by_contra hlt
      have hj' := (h j (by omega)).2 hj
      simpa [hj'] using hbefore j (by omega)

end

open FloatBits

/-- The distance of a coordinate of a slot from another coordinate is computed exactly. -/
@[mk_iff]
structure ExactDistance (n : ℕ) (x : Float) : Prop where
  value_ofNat : value (Float.ofNat n) = n
  isFinite_sub : (Float.ofNat n - x).isFinite
  value_sub : value (Float.ofNat n - x) = value (Float.ofNat n) - value x
  isFinite_sub_rev : (x - Float.ofNat n).isFinite
  value_sub_rev : value (x - Float.ofNat n) = value x - value (Float.ofNat n)

instance (n : ℕ) (x : Float) : Decidable (ExactDistance n x) :=
  decidable_of_iff _ (exactDistance_iff n x).symm

theorem near_iff {bound n : ℕ} {x : Float} (hfinite : (Float.ofNat bound).isFinite)
    (hvalue : value (Float.ofNat bound) = bound) (h : ExactDistance n x) :
    near (Float.ofNat bound) (Float.ofNat n) x = true ↔ |(n : ℚ) - value x| < bound := by
  rw [near, Bool.and_eq_true, decide_eq_true_iff, decide_eq_true_iff,
    lt_iff_value_lt h.isFinite_sub hfinite, lt_iff_value_lt h.isFinite_sub_rev hfinite,
    h.value_sub, h.value_sub_rev, h.value_ofNat, hvalue, abs_sub_lt_iff]

theorem value_tableWidth : value (Float.ofNat tableWidth) = tableWidth := by
  decide +kernel

theorem value_tableHeight : value (Float.ofNat tableHeight) = tableHeight := by
  decide +kernel

theorem overlap_iff {i : ℕ} {p : Float × Float} (hx : ExactDistance (place i).1 p.1)
    (hy : ExactDistance (place i).2 p.2) :
    overlap Float.ofNat ((place i).map Float.ofNat Float.ofNat) p = true ↔
      Covers (p.map value value) i := by
  rw [overlap, Bool.and_eq_true, Prod.map_fst, Prod.map_snd,
    near_iff (by decide +kernel) value_tableWidth hx,
    near_iff (by decide +kernel) value_tableHeight hy]
  rfl

theorem isFree_iff {i : ℕ} {places : List (Float × Float)}
    (h : ∀ p ∈ places, ExactDistance (place i).1 p.1 ∧ ExactDistance (place i).2 p.2) :
    isFree Float.ofNat places i = true ↔ ∀ p ∈ places, ¬Covers (p.map value value) i := by
  rw [isFree, Bool.not_eq_true', List.any_eq_false]
  exact forall₂_congr fun p hp => not_congr (overlap_iff (h p hp).1 (h p hp).2)

end Slot

namespace Schema

open FloatBits

/-- The distances of the tables from the slots that are looked at are computed exactly. -/
def ExactPlaces (s : Schema) : Prop :=
  ∀ e ∈ s.entities, ∀ i ≤ 4 * s.entities.length,
    Slot.ExactDistance (Slot.place i).1 e.position.x ∧
      Slot.ExactDistance (Slot.place i).2 e.position.y

theorem nameTaken_none_eq_false_iff (s : Schema) (name : String) :
    s.nameTaken name none = false ↔ ∀ e ∈ s.entities, Text.sameName e.name name = false := by
  simp [nameTaken, List.any_eq_false]

/-- The search for a name ends with the first candidate that no table has. -/
theorem freeName_isLeast (s : Schema) :
    ∃ k ≤ s.entities.length, s.freeName = NewEntity.candidate k ∧
      IsLeast {k | ∀ e ∈ s.entities, Text.sameName e.name (NewEntity.candidate k) = false} k := by
  have hname : s.freeName =
      (((List.range (s.entities.length + 1)).find? fun k =>
        !s.nameTaken (NewEntity.candidate k) none).map NewEntity.candidate).getD
          NewEntity.baseName := by
    rw [freeName, List.find?_map]
    rfl
  cases hfind : (List.range (s.entities.length + 1)).find? fun k =>
      !s.nameTaken (NewEntity.candidate k) none with
  | none =>
      rw [hfind] at hname
      -- What is returned then is a candidate too, and it is known to be free.
      have htaken := List.find?_eq_none.1 hfind 0 (List.mem_range.2 (Nat.succ_pos _))
      have hfree := s.freeName_spec.1
      rw [hname] at hfree
      exact absurd (congrArg not hfree) htaken
  | some k =>
      rw [hfind] at hname
      obtain ⟨hfree, hmem, hbefore⟩ := List.find?_range_eq_some.1 hfind
      refine ⟨k, Nat.lt_succ_iff.1 (List.mem_range.1 hmem), hname,
        (s.nameTaken_none_eq_false_iff _).1 (by simpa using hfree), fun j hj => ?_⟩
      by_contra hlt
      have hj' := (s.nameTaken_none_eq_false_iff _).2 hj
      simpa [hj'] using hbefore j (Nat.lt_of_not_le hlt)

/-- The search for a slot ends with the first slot where no table is in the way. -/
theorem freePosition_isLeast {s : Schema} (h : s.ExactPlaces) :
    ∃ i ≤ 4 * s.entities.length, s.freePosition = Slot.position i ∧
      IsLeast {i | ∀ e ∈ s.entities,
        ¬Slot.Covers (value e.position.x, value e.position.y) i} i := by
  let places := s.entities.map fun e => (e.position.x, e.position.y)
  have hlength : places.length = s.entities.length := List.length_map _
  have hexact : ∀ i ≤ 4 * places.length,
      Slot.isFree Float.ofNat places i = true ↔
        ∀ p ∈ places, ¬Slot.Covers (p.map value value) i := by
    rw [hlength]
    exact fun i hi => Slot.isFree_iff (List.forall_mem_map.2 fun e he => h e he i hi)
  obtain ⟨hle, hleast⟩ := Slot.firstFree_isLeast (Prod.map value value) hexact
  simp only [places, List.forall_mem_map, Prod.map_apply] at hleast
  exact ⟨_, hlength ▸ hle, rfl, hleast⟩

/-- A new table has a name that no table has, the first of the candidates that is free, and it is on
the first slot where no table is in the way. -/
theorem addEntity_free (s : Schema) (id : EntityId) (keyId : FieldId) :
    ∃ e, s.addEntity id keyId = s.pushEntity e ∧ e.id = id ∧
      (∃ k ≤ s.entities.length, e.name = NewEntity.candidate k ∧
        IsLeast {k | ∀ e' ∈ s.entities,
          Text.sameName e'.name (NewEntity.candidate k) = false} k) ∧
      (s.ExactPlaces → ∃ i ≤ 4 * s.entities.length, e.position = Slot.position i ∧
        IsLeast {i | ∀ e' ∈ s.entities,
          ¬Slot.Covers (value e'.position.x, value e'.position.y) i} i) :=
  ⟨s.newEntity s.freeName id keyId, rfl, rfl, s.freeName_isLeast, freePosition_isLeast⟩

/-- A table in the middle of four slots, and one on a slot. -/
def crowded : Schema where
  entities := [
    { id := ⟨"a"⟩, name := "NEW_ENTITY", fields := [], position := ⟨250, 225⟩ },
    { id := ⟨"b"⟩, name := "new_entity_2", fields := [], position := ⟨700, 100⟩ }]
  relationships := []

/-- Two names are taken, one of them in another case, and three slots before the fourth are
covered. -/
theorem addEntity_free_crowded :
    crowded.ExactPlaces ∧ ∃ e, crowded.addEntity ⟨"c"⟩ ⟨"k"⟩ = crowded.pushEntity e ∧
      e.name = "new_entity_3" ∧ e.position = Slot.position 3 := by
  have hexact : crowded.ExactPlaces := by
    change ∀ e ∈ crowded.entities, ∀ i ≤ 8, _ ∧ _
    decide +kernel
  obtain ⟨e, heq, -, ⟨k, -, hname, hfree, hleast⟩, hplace⟩ :=
    addEntity_free crowded ⟨"c"⟩ ⟨"k"⟩
  obtain ⟨i, -, hposition, huncovered, hfirst⟩ := hplace hexact
  have hk : k ≤ 2 := hleast (show ∀ e ∈ crowded.entities,
    Text.sameName e.name (NewEntity.candidate 2) = false by decide)
  have hi : i ≤ 3 := hfirst (show ∀ e ∈ crowded.entities,
    ¬Slot.Covers (value e.position.x, value e.position.y) 3 by decide +kernel)
  have hk' : k = 2 := by
    revert hfree
    interval_cases k <;> decide
  have hi' : i = 3 := by
    revert huncovered
    interval_cases i <;> decide +kernel
  subst hk' hi'
  exact ⟨hexact, e, heq, hname, hposition⟩

end Schema

end EntityRelation
