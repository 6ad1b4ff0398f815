import EntityRelation.Json.Decode
import EntityRelation.Proofs.Json.Members
import Mathlib.Data.List.Pairwise

/-!
# Records, member by member

A record is decoded by visiting the members of an object in the order of their keys, and each
changes the record under construction. When every member of the record is a component of its own,
the order does not matter: a record is decoded from an object just when each of its components is
what its own member says, or the default if it is absent and may be (`Layout.record_eq_ok_iff`).
-/

namespace EntityRelation

namespace Json

variable {α : Type}

theorem lookup_cons_eq_ite (key : String) (m : String × α) (members : List (String × α)) :
    (m :: members).lookup key = if key = m.1 then some m.2 else members.lookup key := by
  rw [List.lookup_cons]
  by_cases hkey : key = m.1
  · rw [if_pos hkey, beq_iff_eq.2 hkey]
  · rw [if_neg hkey, beq_eq_false_iff_ne.2 hkey]

theorem lookup_insertMember (key key' : String) (value : α) (members : List (String × α)) :
    (insertMember key value members).lookup key' =
      if key' = key then some value else members.lookup key' := by
  induction members with
  | nil => rw [insertMember, lookup_cons_eq_ite]
  | cons first rest ih =>
      rw [insertMember, lookup_cons_eq_ite]
      split
      · next heq =>
        rw [lookup_cons_eq_ite, heq]
        split
        · rfl
        · rfl
      · split
        · rw [lookup_cons_eq_ite, lookup_cons_eq_ite]
        · next hne _ =>
          rw [lookup_cons_eq_ite, ih]
          by_cases hk : key' = first.1
          · rw [if_pos hk, if_pos hk, if_neg fun heq => hne (heq.symm.trans hk)]
          · rw [if_neg hk, if_neg hk]

theorem lookup_eq_none_of_notMem {key : String} {members : List (String × α)}
    (h : key ∉ members.map Prod.fst) : members.lookup key = none := by
  rw [List.lookup_eq_none_iff]
  intro m hm
  have hne : key ≠ m.1 := fun heq => h (heq ▸ List.mem_map_of_mem hm)
  simpa using hne

/-- The order of members of different keys does not matter to a look-up. -/
theorem lookup_of_perm {members members' : List (String × α)} (h : members.Perm members')
    (hkeys : (members.map Prod.fst).Nodup) (key : String) :
    members.lookup key = members'.lookup key := by
  induction h with
  | nil => rfl
  | cons m _ ih =>
      rw [lookup_cons_eq_ite, lookup_cons_eq_ite, ih (List.nodup_cons.1 hkeys).2]
  | swap m m' members =>
      have hne : m'.1 ≠ m.1 := fun heq => (List.nodup_cons.1 hkeys).1 (heq ▸ List.mem_cons_self)
      rw [lookup_cons_eq_ite, lookup_cons_eq_ite, lookup_cons_eq_ite, lookup_cons_eq_ite]
      by_cases hkey : key = m.1
      · rw [if_pos hkey, if_pos hkey, if_neg fun heq => hne (heq.symm.trans hkey)]
      · rw [if_neg hkey, if_neg hkey]
  | trans h _ ih ih' => rw [ih hkeys, ih' ((h.map Prod.fst).nodup_iff.1 hkeys)]

theorem lookup_foldl_insertMember {members : List (String × α)}
    (h : (members.map Prod.fst).Nodup) (sorted : List (String × α)) (key : String) :
    (members.foldl (fun sorted m => insertMember m.1 m.2 sorted) sorted).lookup key =
      (members.lookup key).or (sorted.lookup key) := by
  induction members generalizing sorted with
  | nil => rw [List.foldl_nil, List.lookup_nil, Option.none_or]
  | cons m members ih =>
      rw [List.map_cons, List.nodup_cons] at h
      rw [List.foldl_cons, ih h.2, lookup_insertMember, lookup_cons_eq_ite]
      by_cases hkey : key = m.1
      · rw [if_pos hkey, if_pos hkey, hkey, lookup_eq_none_of_notMem h.1, Option.none_or,
          Option.some_or]
      · rw [if_neg hkey, if_neg hkey]

/-- Putting members into order does not change what they say. -/
theorem lookup_sortMembers {members : List (String × α)} (h : (members.map Prod.fst).Nodup)
    (key : String) : (sortMembers members).lookup key = members.lookup key := by
  rw [sortMembers, lookup_foldl_insertMember h, List.lookup_nil, Option.or_none]

end Json

namespace Decoder

variable {σ : Type}

theorem text_eq_ok_iff {j : Json} {value : String} : text j = .ok value ↔ j = .text value := by
  cases j <;> simp [text]

/-- A component of a record with the member that it is decoded from. -/
structure Member (σ : Type) where
  Value : Type
  key : String
  presence : Presence
  decode : Decoder Value
  get : σ → Value
  put : Value → σ → σ
  get_put : ∀ value record, get (put value record) = value

/-- The component that a slot fills in. -/
def member {α : Type} (key : String) (presence : Presence) (decode : Decoder α) (get : σ → α)
    (put : α → σ → σ) (get_put : ∀ a record, get (put a record) = a := by exact fun _ _ => rfl) :
    Member σ :=
  ⟨α, key, presence, decode, get, put, get_put⟩

namespace Member

/-- The slot that fills in the component. -/
def toSlot (m : Member σ) : Slot σ :=
  slot m.key m.presence m.decode m.put

/-- Two components that have nothing to do with each other. -/
def Independent (m m' : Member σ) : Prop :=
  m.key ≠ m'.key ∧ (∀ value record, m.get (m'.put value record) = m.get record) ∧
    ∀ value record, m'.get (m.put value record) = m'.get record

/-- What the component is in a new record: what it was in the old one, unless its member is
there. -/
def IsFilled (m : Member σ) (old new : σ) : Option Json → Prop
  | none => m.get new = m.get old
  | some j => m.decode j = .ok (m.get new)

/-- What the component is in a complete record: what its member says, or the default if the member
may be absent. -/
def IsRead (m : Member σ) (blank record : σ) : Option Json → Prop
  | none => m.presence ≠ .required ∧ m.get record = m.get blank
  | some j => m.decode j = .ok (m.get record)

instance : Std.Symm (Independent (σ := σ)) where
  symm _ _ h := ⟨h.1.symm, h.2.2, h.2.1⟩

theorem isRead_iff {m : Member σ} {blank record : σ} {j? : Option Json} :
    m.IsRead blank record j? ↔
      m.IsFilled blank record j? ∧ ¬(m.presence = .required ∧ j? = none) := by
  cases j? with
  | none => simp [IsRead, IsFilled, and_comm]
  | some j => simp [IsRead, IsFilled]

/-- A component that has to be there. -/
theorem isRead_required {α : Type} {key : String} {decode : Decoder α} {get : σ → α}
    {put : α → σ → σ} {get_put : ∀ a r, get (put a r) = a} {blank record : σ}
    {j? : Option Json} :
    (member key .required decode get put get_put).IsRead blank record j? ↔
      ∃ j, j? = some j ∧ decode j = .ok (get record) := by
  cases j? with
  | none => simp [IsRead, member]
  | some j => simp [IsRead, member]

end Member

/-- A record as its components and their defaults. For components that are fields of a structure,
the two laws are seen from the list of members. -/
structure Layout (σ : Type) where
  blank : σ
  members : List (Member σ)
  independent : members.Pairwise Member.Independent := by
    simp [EntityRelation.Decoder.Member.Independent, EntityRelation.Decoder.member]
  /-- The components are all that there is to a record. -/
  ext : ∀ {r r' : σ}, (∀ m ∈ members, m.get r = m.get r') → r = r' := by
    rintro ⟨⟩ ⟨⟩ h
    simpa [EntityRelation.Decoder.member] using h

namespace Layout

/-- The slots for the components. -/
def slots (L : Layout σ) : List (Slot σ) :=
  L.members.map Member.toSlot

variable (L : Layout σ) {members : List (String × Json)}

theorem independent_of_ne {m m' : Member σ} (hm : m ∈ L.members) (hm' : m' ∈ L.members)
    (hne : m ≠ m') : m.Independent m' :=
  L.independent.forall hm hm' hne

theorem find?_slots (key : String) :
    (∃ m ∈ L.members, m.key = key ∧ L.slots.find? (·.key == key) = some m.toSlot) ∨
      (∀ m ∈ L.members, m.key ≠ key) ∧ L.slots.find? (·.key == key) = none := by
  cases hfind : L.slots.find? (·.key == key) with
  | none =>
      refine Or.inr ⟨fun m hm hkey => ?_, rfl⟩
      exact List.find?_eq_none.1 hfind _ (List.mem_map_of_mem hm) (beq_iff_eq.2 hkey)
  | some s =>
      obtain ⟨m, hm, rfl⟩ := List.mem_map.1 (List.mem_of_find?_eq_some hfind)
      have hkey := List.find?_some hfind
      exact Or.inl ⟨m, hm, beq_iff_eq.1 hkey, rfl⟩

/-- Filling in members of different keys decodes each by itself. -/
theorem fillMembers_eq_ok_iff (hkeys : (members.map Prod.fst).Nodup) {old new : σ} :
    fillMembers L.slots old members = .ok new ↔
      ∀ m ∈ L.members, m.IsFilled old new (members.lookup m.key) := by
  induction members generalizing old with
  | nil =>
      rw [fillMembers, Except.ok.injEq]
      exact ⟨fun heq _ _ => heq ▸ rfl, fun h => (L.ext h).symm⟩
  | cons member rest ih =>
      obtain ⟨key, value⟩ := member
      rw [List.map_cons, List.nodup_cons] at hkeys
      have hother : ∀ {key' : String}, key' ≠ key →
          ((key, value) :: rest).lookup key' = rest.lookup key' := by
        intro key' hne
        rw [Json.lookup_cons_eq_ite, if_neg hne]
      rcases L.find?_slots key with ⟨m, hm, rfl, hfind⟩ | ⟨hunknown, hfind⟩
      · rw [fillMembers, hfind]
        simp only [Member.toSlot, slot]
        cases hdecode : m.decode value with
        | error e =>
            refine iff_of_false nofun fun h => ?_
            have hread := h m hm
            rw [List.lookup_cons_self, Member.IsFilled, hdecode] at hread
            cases hread
        | ok a =>
            simp only [Except.map]
            rw [ih hkeys.2]
            refine forall₂_congr fun m' hm' => ?_
            by_cases heq : m' = m
            · rw [heq, List.lookup_cons_self, Json.lookup_eq_none_of_notMem hkeys.1,
                Member.IsFilled, Member.IsFilled, m.get_put, hdecode, Except.ok.injEq, eq_comm]
            · obtain ⟨hkey, hget, -⟩ := L.independent_of_ne hm' hm heq
              rw [hother hkey]
              cases rest.lookup m'.key with
              | none => rw [Member.IsFilled, Member.IsFilled, hget]
              | some j => rfl
      · rw [fillMembers, hfind]
        dsimp only
        rw [ih hkeys.2]
        exact forall₂_congr fun m hm => by rw [hother (hunknown m hm)]

theorem missing?_eq_none_iff :
    missing? L.slots members = none ↔
      ∀ m ∈ L.members, ¬(m.presence = .required ∧ members.lookup m.key = none) := by
  rw [missing?, slots, List.find?_eq_none, List.forall_mem_map]
  refine forall₂_congr fun m _ => ?_
  rw [Bool.and_eq_true, decide_eq_true_iff, Option.isNone_iff_eq_none]
  rfl

/-- A record is decoded from an object just when each component is. -/
theorem record_eq_ok_iff (name : String) (hkeys : (members.map Prod.fst).Nodup) {record : σ} :
    Decoder.record name L.blank L.slots (.object members) = .ok record ↔
      ∀ m ∈ L.members, m.IsRead L.blank record (members.lookup m.key) := by
  have hsorted := Json.sorted_sortMembers members
  have hsplit : Decoder.record name L.blank L.slots (.object members) = .ok record ↔
      fillMembers L.slots L.blank (Json.sortMembers members) = .ok record ∧
        missing? L.slots (Json.sortMembers members) = none := by
    rw [Decoder.record]
    cases fillMembers L.slots L.blank (Json.sortMembers members) with
    | error error => simp
    | ok filled =>
        cases missing? L.slots (Json.sortMembers members) with
        | none => simp
        | some s => simp
  rw [hsplit, L.fillMembers_eq_ok_iff hsorted.nodup, L.missing?_eq_none_iff]
  simp only [Json.lookup_sortMembers hkeys, Member.isRead_iff]
  constructor
  · exact fun h m hm => ⟨h.1 m hm, h.2 m hm⟩
  · exact fun h => ⟨fun m hm => (h m hm).1, fun m hm => (h m hm).2⟩

end Layout

end Decoder

end EntityRelation
