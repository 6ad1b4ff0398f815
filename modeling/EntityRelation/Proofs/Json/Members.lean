import EntityRelation.Json.Reader
import Mathlib.Data.List.Nodup

/-!
# The members of an object that was read

The reader puts the members of an object into the order of their keys and keeps the last of each
key. So no key of an object that was read is repeated, and putting its members into order once more
changes nothing (`sorted_of_parse?`).
-/

namespace EntityRelation

namespace Json

variable {α : Type}

/-- Members in the order of their keys, each key once. -/
def Sorted (members : List (String × α)) : Prop :=
  members.Pairwise fun a b => a.1 < b.1

theorem Sorted.nodup {members : List (String × α)} (h : Sorted members) :
    (members.map Prod.fst).Nodup := by
  rw [List.nodup_iff_pairwise_ne, List.pairwise_map]
  have hne : ∀ {a b : String × α}, a.1 < b.1 → a.1 ≠ b.1 := fun {a b} hlt heq =>
    String.lt_irrefl b.1 (heq ▸ hlt)
  exact List.Pairwise.imp hne h

theorem lt_of_ne_of_not_lt {a b : String} (hne : a ≠ b) (h : ¬ a < b) : b < a := by
  by_contra hnot
  exact hne (String.le_antisymm (String.not_lt.1 hnot) (String.not_lt.1 h))

theorem mem_insertMember {key : String} {value : α} {members : List (String × α)}
    {m : String × α} (h : m ∈ insertMember key value members) : m = (key, value) ∨ m ∈ members := by
  induction members with
  | nil => exact .inl (List.mem_singleton.1 h)
  | cons first rest ih =>
      rw [insertMember] at h
      split at h
      · exact (List.mem_cons.1 h).imp id (List.mem_cons_of_mem first)
      · split at h
        · exact List.mem_cons.1 h
        · rcases List.mem_cons.1 h with rfl | h
          · exact .inr List.mem_cons_self
          · exact (ih h).imp id (List.mem_cons_of_mem first)

theorem Sorted.insertMember {members : List (String × α)} (h : Sorted members) (key : String)
    (value : α) : Sorted (insertMember key value members) := by
  induction members with
  | nil => exact List.pairwise_singleton _ _
  | cons first rest ih =>
      have hfirst := List.pairwise_cons.1 h
      rw [Json.insertMember]
      split
      · next heq =>
        subst heq
        exact List.pairwise_cons.2 hfirst
      · next hne =>
        split
        · next hlt =>
          refine List.pairwise_cons.2 ⟨fun m hm => ?_, h⟩
          rcases List.mem_cons.1 hm with rfl | hm
          · exact hlt
          · exact String.lt_trans hlt (hfirst.1 m hm)
        · next hnot =>
          refine List.pairwise_cons.2 ⟨fun m hm => ?_, ih hfirst.2⟩
          rcases mem_insertMember hm with rfl | hm
          · exact lt_of_ne_of_not_lt hne hnot
          · exact hfirst.1 m hm

theorem sorted_foldl_insertMember (members : List (String × α)) {sorted : List (String × α)}
    (h : Sorted sorted) :
    Sorted (members.foldl (fun sorted m => Json.insertMember m.1 m.2 sorted) sorted) := by
  induction members generalizing sorted with
  | nil => exact h
  | cons m members ih => exact ih (h.insertMember m.1 m.2)

theorem sorted_sortMembers (members : List (String × α)) : Sorted (sortMembers members) :=
  sorted_foldl_insertMember members List.Pairwise.nil

/-- A member whose key comes after all others is put last. -/
theorem insertMember_last {key : String} {value : α} {members : List (String × α)}
    (h : ∀ m ∈ members, m.1 < key) : insertMember key value members = members ++ [(key, value)] := by
  induction members with
  | nil => rfl
  | cons first rest ih =>
      have hlt : first.1 < key := h first List.mem_cons_self
      have hne : key ≠ first.1 := fun heq => String.lt_irrefl key (heq.symm ▸ hlt)
      rw [insertMember, if_neg hne,
        if_neg (String.lt_asymm hlt), ih fun m hm => h m (List.mem_cons_of_mem first hm)]
      rfl

theorem Sorted.foldl_insertMember {members sorted : List (String × α)}
    (h : Sorted (sorted ++ members)) :
    members.foldl (fun sorted m => Json.insertMember m.1 m.2 sorted) sorted = sorted ++ members := by
  induction members generalizing sorted with
  | nil => rw [List.append_nil, List.foldl_nil]
  | cons m members ih =>
      have hlast : ∀ m' ∈ sorted, m'.1 < m.1 := fun m' hm' =>
        (List.pairwise_append.1 h).2.2 m' hm' m List.mem_cons_self
      rw [List.foldl_cons, insertMember_last hlast, ih]
      · rw [List.append_assoc]
        rfl
      · rw [List.append_assoc]
        exact h

/-- Members that are in order stay as they are. -/
theorem Sorted.sortMembers_eq {members : List (String × α)} (h : Sorted members) :
    sortMembers members = members := by
  have hnil : Sorted ([] ++ members) := h
  exact hnil.foldl_insertMember

/-! ## What the reader returns -/

/-- A value whose members are in order, if it is an object. -/
def HasSorted (j : Json) : Prop :=
  ∀ members, j = object members → Sorted members

theorem hasSorted_of_members? {steps depth : Nat} {before : List (String × Json)} {cs : List Char}
    {j : Json} {rest : List Char} (h : members? steps depth before cs = some (j, rest)) :
    j.HasSorted := by
  induction steps generalizing before cs with
  | zero => cases h
  | succ steps ih =>
      unfold members? at h
      split at h
      · split at h
        · cases h
        · split at h
          · split at h
            · cases h
            · split at h
              · exact ih h
              · obtain ⟨rfl, -⟩ := Prod.mk.inj (Option.some.inj h)
                rintro members heq
                obtain rfl := Json.object.inj heq
                exact sorted_sortMembers _
              · cases h
          · cases h
      · cases h

theorem hasSorted_of_items? {steps depth : Nat} {before : List Json} {cs : List Char}
    {j : Json} {rest : List Char} (h : items? steps depth before cs = some (j, rest)) :
    j.HasSorted := by
  induction steps generalizing before cs with
  | zero => cases h
  | succ steps ih =>
      unfold items? at h
      split at h
      · cases h
      · split at h
        · exact ih h
        · obtain ⟨rfl, -⟩ := Prod.mk.inj (Option.some.inj h)
          exact fun _ heq => nomatch heq
        · cases h

theorem hasSorted_of_scaled {negative : Bool} {word : Nat} {exponent : Int} {j : Json}
    (h : scaled negative word exponent = some j) : j.HasSorted := by
  obtain ⟨x, -, rfl⟩ := Option.map_eq_some_iff.1 h
  exact fun _ heq => nomatch heq

theorem hasSorted_of_exponentPart {negative : Bool} {word : Nat} {base : Int} {cs rest : List Char}
    {j : Json} (h : exponentPart negative word base cs = some (j, rest)) : j.HasSorted := by
  unfold exponentPart at h
  dsimp only at h
  -- The exponent is read alike after either sign and without one.
  split at h
  all_goals
    dsimp only at h
    split at h
    · cases h
    · split at h
      · obtain ⟨x, hx, heq⟩ := Option.map_eq_some_iff.1 h
        obtain ⟨rfl, -⟩ := Prod.mk.inj heq
        exact hasSorted_of_scaled hx
      · split at h
        · cases h
        · obtain ⟨rfl, -⟩ := Prod.mk.inj (Option.some.inj h)
          exact fun _ heq => nomatch heq

theorem hasSorted_of_number? {cs rest : List Char} {j : Json}
    (h : number? cs = some (j, rest)) : j.HasSorted := by
  have hunsigned : ∀ {negative : Bool} {cs : List Char},
      unsignedNumber? negative cs = some (j, rest) → j.HasSorted := by
    intro negative cs h
    have hscaled : ∀ {word : Nat} {base : Int} {cs : List Char},
        (scaled negative word base).map (·, cs) = some (j, rest) → j.HasSorted := by
      intro word base cs h
      obtain ⟨x, hx, heq⟩ := Option.map_eq_some_iff.1 h
      obtain ⟨rfl, -⟩ := Prod.mk.inj heq
      exact hasSorted_of_scaled hx
    unfold unsignedNumber? at h
    dsimp only at h
    split at h
    · cases h
    · split at h
      · split at h
        · cases h
        · unfold realPart at h
          split at h
          · exact hasSorted_of_exponentPart h
          · exact hasSorted_of_exponentPart h
          · exact hscaled h
      · exact hasSorted_of_exponentPart h
      · exact hasSorted_of_exponentPart h
      · split at h
        · obtain ⟨rfl, -⟩ := Prod.mk.inj (Option.some.inj h)
          rintro members heq
          unfold whole at heq
          split at heq
          · cases heq
          · split at heq
            · cases heq
            · cases heq
        · exact hscaled h
  unfold number? at h
  split at h
  · exact hunsigned h
  · exact hunsigned h

theorem hasSorted_of_value? {steps depth : Nat} {cs rest : List Char} {j : Json}
    (h : value? steps depth cs = some (j, rest)) : j.HasSorted := by
  cases steps with
  | zero => cases h
  | succ steps =>
      unfold value? at h
      split at h
      · obtain ⟨x, -, heq⟩ := Option.map_eq_some_iff.1 h
        obtain ⟨rfl, -⟩ := Prod.mk.inj heq
        exact fun _ heq => nomatch heq
      · split at h
        · cases h
        · split at h
          · obtain ⟨rfl, -⟩ := Prod.mk.inj (Option.some.inj h)
            exact fun _ heq => nomatch heq
          · exact hasSorted_of_items? h
      · split at h
        · cases h
        · split at h
          · obtain ⟨rfl, -⟩ := Prod.mk.inj (Option.some.inj h)
            rintro members heq
            obtain rfl := Json.object.inj heq
            exact List.Pairwise.nil
          · exact hasSorted_of_members? h
      · obtain ⟨rfl, -⟩ := Prod.mk.inj (Option.some.inj h)
        exact fun _ heq => nomatch heq
      · obtain ⟨rfl, -⟩ := Prod.mk.inj (Option.some.inj h)
        exact fun _ heq => nomatch heq
      · obtain ⟨rfl, -⟩ := Prod.mk.inj (Option.some.inj h)
        exact fun _ heq => nomatch heq
      · exact hasSorted_of_number? h

/-- The members of an object that was read are in the order of their keys. -/
theorem sorted_of_parse? {text : String} {members : List (String × Json)}
    (h : parse? text = some (object members)) : Sorted members := by
  unfold parse? at h
  dsimp only at h
  split at h
  · next hvalue =>
    split at h
    · obtain rfl := Option.some.inj h
      exact hasSorted_of_value? hvalue members rfl
    · cases h
  · cases h

end Json

end EntityRelation
