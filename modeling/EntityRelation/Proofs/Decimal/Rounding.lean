import EntityRelation.Decimal.Nearest
import Mathlib.Algebra.Order.Field.Rat
import Mathlib.Tactic.Linarith
import Mathlib.Tactic.Positivity
import Mathlib.Tactic.Ring

/-!
# Rounding to the nearest floating-point number

The bits `k * 2 ^ 52 + m` are `m * 2 ^ k` units. A fraction rounds to them when it is at most half
a unit of the last place away, and a half only counts when `m` is even. Just above a power of two
the lower neighbour is nearer, so there the distance downwards is a quarter.
-/

namespace EntityRelation

namespace Nearest

theorem natPow_eq (m n : ℕ) : Nat.pow m n = m ^ n := rfl

/-- A quotient is rounded to any whole number that is at most a half away, and exactly a half only
when it is even. -/
theorem roundedQuotient_eq {n d m : ℕ} (hd : 0 < d) (hlow : 2 * (m * d) ≤ 2 * n + d)
    (hhigh : 2 * n ≤ 2 * (m * d) + d)
    (htie : 2 * (m * d) = 2 * n + d ∨ 2 * n = 2 * (m * d) + d → m % 2 = 0) :
    roundedQuotient n d = m := by
  have hdiv : d * (n / d) + n % d = n := Nat.div_add_mod n d
  have hmod : n % d < d := Nat.mod_lt n hd
  have hge : n / d ≤ m := by
    by_contra hlt
    have hmul : (m + 1) * d ≤ d * (n / d) := by
      rw [Nat.mul_comm d]
      exact Nat.mul_le_mul_right d (by omega)
    rw [Nat.add_mul] at hmul
    omega
  have hle : m ≤ n / d + 1 := by
    by_contra hlt
    have hmul : d * (n / d) + 2 * d ≤ m * d := by
      have := Nat.mul_le_mul_right d (show n / d + 2 ≤ m by omega)
      rw [Nat.add_mul, Nat.mul_comm (n / d)] at this
      exact this
    omega
  rw [roundedQuotient]
  rcases Nat.eq_or_lt_of_le hge with heq | hlt
  · rw [← heq, Nat.mul_comm (n / d)] at hhigh htie
    have hhalf : 2 * (n % d) ≤ d := by omega
    rw [if_neg, heq]
    rintro (hup | ⟨hmid, hodd⟩)
    · omega
    · have := htie (Or.inr (by omega))
      omega
  · have heq : m = n / d + 1 := by omega
    have hmul : m * d = d * (n / d) + d := by
      rw [heq, Nat.add_mul, Nat.mul_comm (n / d), Nat.one_mul]
    rw [if_pos, heq]
    have hhalf : d ≤ 2 * (n % d) := by omega
    rcases Nat.eq_or_lt_of_le hhalf with hmid | hup
    · have heven := htie (Or.inl (by omega))
      exact Or.inr ⟨hmid.symm, by omega⟩
    · exact Or.inl hup

/-- A number lies below `2 ^ 53` after it has been halved as often as it has to be. -/
theorem lt_of_halvings (n : ℕ) : n < 2 ^ (53 + halvings n) := by
  refine lt_of_lt_of_le Nat.lt_log2_self (Nat.pow_le_pow_right Nat.two_pos ?_)
  rw [halvings]
  omega

/-- A number that has to be halved at all is not below `2 ^ 52` after it. -/
theorem le_of_halvings {n : ℕ} (h : 0 < halvings n) : 2 ^ (52 + halvings n) ≤ n := by
  rw [halvings] at h ⊢
  have hlog : 52 + (n.log2 - 52) = n.log2 := by omega
  have hne : n ≠ 0 := by
    rintro rfl
    simp at h
  rw [hlog]
  exact Nat.log2_self_le hne

theorem le_halvings {n k : ℕ} (h : 2 ^ (52 + k) ≤ n) : k ≤ halvings n := by
  have hne : n ≠ 0 := by
    rintro rfl
    exact absurd h (by simp)
  have hlog : 52 + k ≤ n.log2 := (Nat.le_log2 hne).2 h
  rw [halvings]
  omega

/-- How far a number may lie below `m` units of the last place, in quarters of them. -/
def slack (m k : ℕ) : ℕ :=
  if m = 2 ^ 52 ∧ 0 < k then 1 else 2

theorem slack_le_two (m k : ℕ) : slack m k ≤ 2 := by
  rw [slack]
  split
  · exact one_le_two
  · exact Nat.le_refl 2

/-- A fraction below the last place of `m` units needs no more halvings than `m` has. -/
theorem halvings_le {u d m k : ℕ} (hd : 0 < d) (hm : m < 2 ^ 53)
    (hhigh : 4 * u ≤ (4 * m + 2) * (2 ^ k * d)) : halvings (u / d) ≤ k := by
  by_contra hlt
  have hpow : 2 ^ (53 + k) ≤ u / d :=
    (Nat.pow_le_pow_right Nat.two_pos (by omega)).trans (le_of_halvings (by omega))
  have hmul : 2 ^ 53 * (2 ^ k * d) ≤ u := by
    rw [← Nat.mul_assoc, ← Nat.pow_add]
    exact (Nat.mul_le_mul_right d hpow).trans (Nat.div_mul_le_self u d)
  have hbound : (4 * m + 2) * (2 ^ k * d) < 4 * (2 ^ 53 * (2 ^ k * d)) := by
    rw [← Nat.mul_assoc 4]
    exact Nat.mul_lt_mul_of_pos_right (by omega) (Nat.mul_pos (Nat.two_pow_pos k) hd)
  omega

/-- At most half a unit away, and with `m` even if it is just half a unit. -/
theorem roundedQuotient_of_near {u w m s : ℕ} (hw : 0 < w) (hs : s ≤ 2)
    (hlow : 4 * m * w ≤ 4 * u + s * w) (hhigh : 4 * u ≤ (4 * m + 2) * w)
    (htie : 4 * m * w = 4 * u + s * w ∨ 4 * u = (4 * m + 2) * w → m % 2 = 0) :
    roundedQuotient u w = m := by
  have hassoc : 4 * m * w = 4 * (m * w) := Nat.mul_assoc _ _ _
  have hhalf : (4 * m + 2) * w = 4 * (m * w) + 2 * w := by rw [Nat.add_mul, hassoc]
  have hscaled : s * w ≤ 2 * w := Nat.mul_le_mul_right w hs
  refine roundedQuotient_eq hw (by omega) (by omega) ?_
  rintro (hdown | hup)
  · exact htie (Or.inl (by omega))
  · exact htie (Or.inr (by omega))

/-- Only just below a power of two does the fraction need fewer halvings. -/
theorem eq_pow_of_halvings_lt {u d m j : ℕ} (hd : 0 < d) (hlarge : 2 ^ 52 ≤ m)
    (hlow : 4 * m * (2 * (2 ^ j * d)) ≤ 4 * u + slack m (j + 1) * (2 * (2 ^ j * d)))
    (hlt : halvings (u / d) < j + 1) :
    m = 2 ^ 52 ∧ halvings (u / d) = j ∧ u < 2 ^ 53 * (2 ^ j * d) := by
  have hw : 0 < 2 ^ j * d := Nat.mul_pos (Nat.two_pow_pos j) hd
  have hsmall : u < 2 ^ 53 * (2 ^ j * d) := by
    have hceil : u < (u / d + 1) * d := by
      rw [Nat.mul_comm]
      exact Nat.lt_mul_div_succ u hd
    have hpow : u / d + 1 ≤ 2 ^ (53 + j) := by
      refine (lt_of_halvings (u / d)).trans_le ?_
      exact Nat.pow_le_pow_right Nat.two_pos (by omega)
    rw [← Nat.mul_assoc, ← Nat.pow_add]
    exact hceil.trans_le (Nat.mul_le_mul_right d hpow)
  have hm : m = 2 ^ 52 := by
    by_contra hne
    have hstep : 2 ^ 52 + 1 ≤ m := by omega
    have hmul : 4 * (2 ^ 52 + 1) * (2 * (2 ^ j * d)) ≤ 4 * m * (2 * (2 ^ j * d)) :=
      Nat.mul_le_mul_right _ (by omega)
    have hscaled : slack m (j + 1) * (2 * (2 ^ j * d)) ≤ 2 * (2 * (2 ^ j * d)) :=
      Nat.mul_le_mul_right _ (slack_le_two m _)
    omega
  have hquarter : slack m (j + 1) = 1 := by simp [slack, hm]
  rw [hquarter, hm] at hlow
  have hge : j ≤ halvings (u / d) := by
    refine le_halvings ((Nat.le_div_iff_mul_le hd).2 ?_)
    rw [Nat.pow_add, Nat.mul_assoc]
    omega
  exact ⟨hm, by omega, hsmall⟩

/-- A fraction near `m * 2 ^ k` units has the bits of that number. -/
theorem bitsOfFraction_eq {n d m k : ℕ} (hd : 0 < d) (hm : m < 2 ^ 53)
    (hnormal : k = 0 ∨ 2 ^ 52 ≤ m) (hfinite : k * 2 ^ 52 + m < infinityBits)
    (hlow : 4 * m * (2 ^ k * d) ≤ 4 * (n * 2 ^ 1074) + slack m k * (2 ^ k * d))
    (hhigh : 4 * (n * 2 ^ 1074) ≤ (4 * m + 2) * (2 ^ k * d))
    (htie : 4 * m * (2 ^ k * d) = 4 * (n * 2 ^ 1074) + slack m k * (2 ^ k * d) ∨
      4 * (n * 2 ^ 1074) = (4 * m + 2) * (2 ^ k * d) → m % 2 = 0) :
    bitsOfFraction n d = k * 2 ^ 52 + m := by
  simp only [bitsOfFraction, natPow_eq]
  generalize n * 2 ^ 1074 = u at *
  rcases Nat.eq_or_lt_of_le (halvings_le hd hm hhigh) with heq | hlt
  · have hw : 0 < 2 ^ k * d := Nat.mul_pos (Nat.two_pow_pos k) hd
    rw [heq, Nat.mul_comm d, roundedQuotient_of_near hw (slack_le_two m k) hlow hhigh htie]
    exact Nat.min_eq_left hfinite.le
  · have hlarge : 2 ^ 52 ≤ m := hnormal.resolve_left (by omega)
    obtain ⟨j, rfl⟩ : ∃ j, k = j + 1 := ⟨k - 1, by omega⟩
    have hdouble : 2 ^ (j + 1) * d = 2 * (2 ^ j * d) := by
      rw [Nat.pow_succ, Nat.mul_comm (2 ^ j), Nat.mul_assoc]
    rw [hdouble] at hlow hhigh htie
    obtain ⟨rfl, hhalvings, hsmall⟩ := eq_pow_of_halvings_lt hd hlarge hlow hlt
    have hquarter : slack (2 ^ 52) (j + 1) = 1 := by simp [slack]
    rw [hquarter] at hlow
    have hround : roundedQuotient u (2 ^ j * d) = 2 ^ 53 := by
      have hw : 0 < 2 ^ j * d := Nat.mul_pos (Nat.two_pow_pos j) hd
      refine roundedQuotient_eq hw (by omega) (by omega) fun _ => ?_
      rfl
    rw [hhalvings, Nat.mul_comm d, hround, Nat.min_eq_left (by omega)]
    omega

end Nearest

end EntityRelation
