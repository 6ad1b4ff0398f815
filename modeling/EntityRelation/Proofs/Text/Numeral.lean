import EntityRelation.Proofs.Text.Trim
import EntityRelation.Text.Case
import Mathlib.Logic.Function.Basic

/-!
# Numbered names

Names that are made by numbering differ where their numbers do, in any ASCII case, since digits
have none. A digit is not a blank, so a name that ends in a number is trimmed at that end.
-/

namespace EntityRelation

namespace Text

/-- What holds of the first 128 characters, one by one, holds of every ASCII character. -/
theorem ascii_cases {P : Char → Prop} (h : ∀ n < 128, P (Char.ofNat n)) {c : Char}
    (hc : c.toNat < 128) : P c :=
  Char.ofNat_toNat c ▸ h c.toNat hc

theorem toNat_lt_of_isDigit {c : Char} (h : c.isDigit = true) : c.toNat < 128 := by
  have hle : c.toNat ≤ 57 := (Char.isDigit_iff_toNat.1 h).2
  omega

theorem toLower_of_isDigit {c : Char} (h : c.isDigit = true) : c.toLower = c := by
  refine ascii_cases (P := fun c => c.isDigit = true → c.toLower = c) ?_ (toNat_lt_of_isDigit h) h
  decide

theorem isBlank_of_isDigit {c : Char} (h : c.isDigit = true) : isBlank c = false := by
  refine ascii_cases (P := fun c => c.isDigit = true → isBlank c = false) ?_
    (toNat_lt_of_isDigit h) h
  decide

theorem foldAscii_append (a b : String) : foldAscii (a ++ b) = foldAscii a ++ foldAscii b := by
  simp [foldAscii]

theorem isDigit_of_mem_toString {n : Nat} {c : Char} (h : c ∈ (toString n).toList) :
    c.isDigit = true := by
  rw [Nat.toString_eq_repr, Nat.toList_repr] at h
  exact Nat.isDigit_of_mem_toDigits (by decide) (by decide) h

theorem foldAscii_toString (n : Nat) : foldAscii (toString n) = (toString n).toList := by
  have hsame : ∀ c ∈ (toString n).toList, c.toLower = id c :=
    fun c hc => toLower_of_isDigit (isDigit_of_mem_toString hc)
  rw [foldAscii, List.map_congr_left hsame, List.map_id]

theorem toString_injective : Function.Injective (toString : Nat → String) := by
  intro m n h
  have hdigits : Nat.toDigits 10 m = Nat.toDigits 10 n := by
    simpa [Nat.toString_eq_repr] using congrArg String.toList h
  have hread := congrArg (Nat.ofDigitChars 10 · 0) hdigits
  simpa using hread

/-- Numbering tells texts apart. -/
theorem numbered_injective (start : String) :
    Function.Injective fun n : Nat => start ++ toString n := by
  intro m n h
  have hlist : start.toList ++ (toString m).toList = start.toList ++ (toString n).toList := by
    simpa using congrArg String.toList h
  exact toString_injective (String.toList_inj.1 (List.append_cancel_left hlist))

/-- Numbering tells names apart, ignoring ASCII case. -/
theorem foldAscii_numbered_injective (start : String) :
    Function.Injective fun n : Nat => foldAscii (start ++ toString n) := by
  intro m n h
  simp only [foldAscii_append, foldAscii_toString] at h
  exact toString_injective (String.toList_inj.1 (List.append_cancel_left h))

end Text

end EntityRelation
