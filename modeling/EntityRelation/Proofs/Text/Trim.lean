import EntityRelation.Text.Blank
import Mathlib.Data.List.DropRight

/-!
# Trimming

A text is trimmed when it does not start or end with a blank (`trim_eq_self_iff`), and a trimmed
text stays as it is when it is trimmed again.
-/

namespace EntityRelation

namespace Text

theorem trimEnd_eq_rdropWhile (cs : List Char) : trimEnd cs = cs.rdropWhile isBlank := rfl

/-- A text that neither starts nor ends with a blank is trimmed. -/
theorem trim_eq_self_iff (cs : List Char) :
    trim cs = cs ↔ (∀ c ∈ cs.head?, isBlank c = false) ∧ ∀ c ∈ cs.getLast?, isBlank c = false := by
  constructor
  · intro h
    have hstart : trimStart cs = cs := by
      have hle : (trim cs).length ≤ (trimStart cs).length :=
        (List.rdropWhile_prefix isBlank (trimStart cs)).length_le
      rw [h] at hle
      exact (List.dropWhile_suffix isBlank).eq_of_length_le hle
    have hend : cs.rdropWhile isBlank = cs := by
      have h' := h
      rw [trim, hstart, trimEnd_eq_rdropWhile] at h'
      exact h'
    rw [List.rdropWhile_eq_self_iff] at hend
    rw [trimStart, List.dropWhile_eq_self_iff] at hstart
    cases cs with
    | nil => simp
    | cons c rest =>
        refine ⟨?_, ?_⟩
        · intro d hd
          obtain rfl := Option.some.inj hd
          have hnot : ¬ isBlank c = true := hstart (Nat.succ_pos _)
          exact Bool.eq_false_iff.2 hnot
        · intro d hd
          rw [List.getLast?_eq_some_getLast (by simp)] at hd
          obtain rfl := Option.some.inj hd
          simpa using hend (by simp)
  · rintro ⟨hfirst, hlast⟩
    have hstart : trimStart cs = cs := by
      rw [trimStart, List.dropWhile_eq_self_iff]
      intro hlen
      have := hfirst cs[0] (by simp [List.head?_eq_getElem?, hlen])
      simp [this]
    rw [trim, hstart, trimEnd_eq_rdropWhile, List.rdropWhile_eq_self_iff]
    intro hne
    have := hlast (cs.getLast hne) (by simp [List.getLast?_eq_some_getLast hne])
    simp [this]

section Strip

variable {α : Type} {p : α → Bool} {as : List α} {a : α}

/-- What is stripped at both ends does not start with what is stripped. -/
theorem head?_strip (h : a ∈ ((as.dropWhile p).rdropWhile p).head?) : p a = false := by
  obtain ⟨rest, hrest⟩ := List.rdropWhile_prefix p (as.dropWhile p)
  have hhead : (as.dropWhile p).head? = some a := by
    rw [← hrest, List.head?_append, Option.mem_def.1 h]
    rfl
  have hnot := List.head?_dropWhile_not p as
  rw [hhead] at hnot
  simpa using hnot

/-- What is stripped at both ends does not end with what is stripped. -/
theorem getLast?_strip (h : a ∈ ((as.dropWhile p).rdropWhile p).getLast?) : p a = false := by
  have hne : (as.dropWhile p).rdropWhile p ≠ [] := by
    rintro hnil
    simp [hnil] at h
  have hnot := List.rdropWhile_last_not p (as.dropWhile p) hne
  rw [List.getLast?_eq_some_getLast hne] at h
  obtain rfl := Option.some.inj h
  exact Bool.eq_false_iff.2 hnot

end Strip

theorem trim_trim (cs : List Char) : trim (trim cs) = trim cs := by
  rw [trim_eq_self_iff]
  exact ⟨fun _ => head?_strip, fun _ => getLast?_strip⟩

theorem trimmed_trimmed (s : String) : trimmed (trimmed s) = trimmed s := by
  simp [trimmed, trim_trim]

end Text

end EntityRelation
