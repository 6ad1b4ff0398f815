import EntityRelation.Proofs.Json.Records
import Mathlib.Data.List.Forall2

/-!
# The forms of a value

The JSON values that stand for a value are its form. In a form, the members of an object may stand
in any order and among others, and some may be left out. A decoder that matches a form reads every
value of it; and where anything at all is left out, what is read is another value unless the form
allows the omission (`Decoder.Matches`).
-/

namespace EntityRelation

namespace Json

/-- Which JSON values stand for a value, when only those members are left out that may be (`false`),
and when any are (`true`). -/
def Form : Type :=
  (loose : Bool) → Json → Prop

namespace Form

/-- One JSON value. -/
def exactly (x : Json) : Form :=
  fun _ j => j = x

/-- Null for nothing. -/
def optional : Option Form → Form
  | none => exactly null
  | some form => form

/-- An array with a form for each item. -/
def list (forms : List Form) : Form :=
  fun loose j => ∃ js, j = array js ∧ List.Forall₂ (fun form j => form loose j) forms js

/-- A member of an object. -/
structure Part where
  key : String
  /-- Whether the member may be left out. -/
  omissible : Prop
  form : Form

namespace Part

/-- A member that has to be there. -/
@[simps] def must (key : String) (form : Form) : Part :=
  ⟨key, False, form⟩

/-- A member that may be left out on a condition. -/
@[simps] def may (key : String) (condition : Prop) (form : Form) : Part :=
  ⟨key, condition, form⟩

/-- Whether the member is right, or rightly absent. -/
def Fits (p : Part) (loose : Bool) : Option Json → Prop
  | none => loose = true ∨ p.omissible
  | some j => p.form loose j

@[simp] theorem fits_none (p : Part) (loose : Bool) :
    p.Fits loose none ↔ loose = true ∨ p.omissible := Iff.rfl

@[simp] theorem fits_some (p : Part) (loose : Bool) (j : Json) :
    p.Fits loose (some j) ↔ p.form loose j := Iff.rfl

end Part

@[simp] theorem exactly_iff {x j : Json} {loose : Bool} : exactly x loose j ↔ j = x := Iff.rfl

/-- An object with these members, in any order and among others. No key is repeated. -/
def record (parts : List Part) : Form :=
  fun loose j => ∃ members, j = object members ∧ (members.map Prod.fst).Nodup ∧
    ∀ p ∈ parts, p.Fits loose (members.lookup p.key)

@[simp] theorem list_array {forms : List Form} {js : List Json} {loose : Bool} :
    list forms loose (array js) ↔ List.Forall₂ (fun form j => form loose j) forms js := by
  constructor
  · rintro ⟨_, heq, h⟩
    rwa [Json.array.inj heq]
  · exact fun h => ⟨js, rfl, h⟩

@[simp] theorem record_object {parts : List Part} {members : List (String × Json)} {loose : Bool} :
    record parts loose (object members) ↔
      (members.map Prod.fst).Nodup ∧ ∀ p ∈ parts, p.Fits loose (members.lookup p.key) := by
  constructor
  · rintro ⟨_, heq, h⟩
    rwa [Json.object.inj heq]
  · exact fun h => ⟨members, rfl, h⟩

/-! ## What may be done to the members of an object -/

variable {parts : List Part} {members members' : List (String × Json)} {loose : Bool}

/-- They may change places. -/
theorem record_of_perm (hperm : members.Perm members') (h : record parts loose (object members)) :
    record parts loose (object members') := by
  rw [record_object] at h ⊢
  refine ⟨(hperm.map Prod.fst).nodup_iff.1 h.1, fun p hp => ?_⟩
  rw [← lookup_of_perm hperm h.1]
  exact h.2 p hp

/-- A member of another key may be added. -/
theorem record_cons_of_unknown {key : String} (hunknown : ∀ p ∈ parts, p.key ≠ key)
    (hkey : key ∉ members.map Prod.fst) (j : Json) (h : record parts loose (object members)) :
    record parts loose (object ((key, j) :: members)) := by
  rw [record_object] at h ⊢
  refine ⟨List.nodup_cons.2 ⟨hkey, h.1⟩, fun p hp => ?_⟩
  rw [lookup_cons_eq_ite, if_neg (hunknown p hp)]
  exact h.2 p hp

/-- A member may be removed if its part may be left out. -/
theorem record_of_omitted {key : String} {j : Json}
    (hmay : ∀ p ∈ parts, p.key = key → loose = true ∨ p.omissible)
    (h : record parts loose (object ((key, j) :: members))) :
    record parts loose (object members) := by
  rw [record_object, List.map_cons, List.nodup_cons] at h
  rw [record_object]
  refine ⟨h.1.2, fun p hp => ?_⟩
  by_cases hkey : p.key = key
  · rw [hkey, lookup_eq_none_of_notMem h.1.1]
    exact hmay p hp hkey
  · have hfits := h.2 p hp
    rwa [lookup_cons_eq_ite, if_neg hkey] at hfits

/-- The items of a list, each in a form of its own. -/
theorem list_ofList {α : Type} {form : α → Form} {encode : α → Json} {items : List α}
    (h : ∀ a ∈ items, form a false (encode a)) :
    list (items.map form) false (ofList encode items) := by
  refine ⟨items.map encode, rfl, ?_⟩
  rw [List.forall₂_map_left_iff, List.forall₂_map_right_iff, List.forall₂_same]
  exact h

end Form

end Json

namespace Decoder

open Json (Form)

universe u v

variable {α σ : Type}

/-- The decoder reads the value from every JSON value of the form. Where more is left out than the
form allows, it does not. -/
structure Matches (decode : Decoder α) (a : α) (form : Form) : Prop where
  reads : ∀ {j}, form false j → decode j = .ok a
  only : ∀ {j}, form true j → decode j = .ok a → form false j

theorem option_of_ne_null {decode : Decoder α} {j : Json} (h : j ≠ .null) :
    option decode j = (decode j).map some := by
  cases j with
  | null => exact absurd rfl h
  | _ => rfl

namespace Matches

variable {decode : Decoder α} {a : α} {x : Json}

theorem exactly (h : decode x = .ok a) : Matches decode a (.exactly x) where
  reads := by
    rintro j rfl
    exact h
  only := fun hj _ => hj

theorem optional {a? : Option α} {form : α → Form} (h : ∀ a ∈ a?, Matches decode a (form a))
    (hnull : ∀ a ∈ a?, ¬ form a false .null) :
    Matches (Decoder.option decode) a? (.optional (a?.map form)) := by
  cases a? with
  | none => exact exactly rfl
  | some a =>
      rw [Option.map_some]
      constructor
      · intro j hj
        have hne : j ≠ .null := fun heq => hnull a rfl (heq ▸ hj)
        rw [option_of_ne_null hne, (h a rfl).reads hj]
        rfl
      · intro j hj hdecode
        have hne : j ≠ .null := by
          rintro rfl
          cases hdecode
        rw [option_of_ne_null hne] at hdecode
        cases hvalue : decode j with
        | error e =>
            rw [hvalue] at hdecode
            cases hdecode
        | ok a' =>
            rw [hvalue] at hdecode
            obtain rfl := Option.some.inj (Except.ok.inj hdecode)
            exact (h a' rfl).only hj hvalue

end Matches

/-- The items of an array decode one by one. -/
theorem items_eq_ok_iff {decode : Decoder α} {js : List Json} {as : List α} :
    items decode js = .ok as ↔ List.Forall₂ (fun a j => decode j = .ok a) as js := by
  induction js generalizing as with
  | nil => rw [items, Except.ok.injEq, List.forall₂_nil_right_iff, eq_comm]
  | cons j js ih =>
      rw [items]
      cases hdecode : decode j with
      | error e => simp [List.forall₂_cons_right_iff, hdecode]
      | ok a =>
          cases hitems : items decode js with
          | error e =>
              simp [Except.map, List.forall₂_cons_right_iff, hdecode, ← ih, hitems]
          | ok rest =>
              simp [Except.map, List.forall₂_cons_right_iff, hdecode, ← ih, hitems, eq_comm]

/-- Items that are read back one by one are read back as a list. -/
theorem list_ofList {decode : Decoder α} {encode : α → Json} {as : List α}
    (h : ∀ a ∈ as, decode (encode a) = .ok a) :
    Decoder.list decode (.ofList encode as) = .ok as := by
  rw [Json.ofList, Decoder.list, items_eq_ok_iff, List.forall₂_map_right_iff, List.forall₂_same]
  exact h

/-- A value whose tag names its kind is read by the decoder of the kind. -/
theorem tagged_object {name tag kind : String} {kinds : List (String × Decoder α)}
    {decode : Decoder α} {members : List (String × Json)} {a : α}
    (htag : members.lookup tag = some (.text kind)) (hkind : kinds.lookup kind = some decode)
    (h : decode (.object (members.filter (·.1 != tag))) = .ok a) :
    tagged name tag kinds (.object members) = .ok a := by
  rw [tagged, htag]
  simp only [named, hkind]
  exact congrArg (Except.mapError DecodeError.insideTagged) h

theorem Matches.list {decode : Decoder α} {as : List α} {form : α → Form}
    (h : ∀ a ∈ as, Matches decode a (form a)) :
    Matches (Decoder.list decode) as (.list (as.map form)) := by
  constructor
  · rintro j ⟨js, rfl, hforms⟩
    rw [List.forall₂_map_left_iff] at hforms
    rw [Decoder.list, items_eq_ok_iff]
    exact ((List.forall₂_and_left _ _).2 ⟨h, hforms⟩).imp fun _ _ hj => hj.1.reads hj.2
  · rintro j ⟨js, rfl, hforms⟩ hdecode
    rw [List.forall₂_map_left_iff] at hforms
    rw [Decoder.list, items_eq_ok_iff] at hdecode
    refine ⟨js, rfl, List.forall₂_map_left_iff.2 ?_⟩
    exact ((List.forall₂_and_left _ _).2 ⟨h, hforms⟩).mp (fun _ _ hj => hj.1.only hj.2) hdecode

/-- The member is a part of the form. -/
structure Member.Agrees (m : Member σ) (blank record : σ) (p : Form.Part) : Prop where
  key : m.key = p.key
  omissible : p.omissible ↔ m.presence ≠ .required ∧ m.get record = m.get blank
  value : Matches m.decode (m.get record) p.form

namespace Member.Agrees

variable {m : Member σ} {blank record : σ} {p : Form.Part} {key : String} {decode : Decoder α}
  {get : σ → α} {put : α → σ → σ} {get_put : ∀ a r, get (put a r) = a} {form : Form}

theorem must (h : Matches decode (get record) form) :
    (member key .required decode get put get_put).Agrees blank record (.must key form) :=
  ⟨rfl, iff_of_false id fun hpresence => hpresence.1 rfl, h⟩

theorem may (h : Matches decode (get record) form) :
    (member key .defaulted decode get put get_put).Agrees blank record
      (.may key (get record = get blank) form) :=
  ⟨rfl, ⟨fun hget => ⟨nofun, hget⟩, And.right⟩, h⟩

theorem isRead_of_fits (h : m.Agrees blank record p) {j? : Option Json} (hj : p.Fits false j?) :
    m.IsRead blank record j? := by
  cases j? with
  | none => exact h.omissible.1 (hj.resolve_left Bool.false_ne_true)
  | some j => exact h.value.reads hj

theorem fits_of_isRead (h : m.Agrees blank record p) {j? : Option Json} (hj : p.Fits true j?)
    (hread : m.IsRead blank record j?) : p.Fits false j? := by
  cases j? with
  | none => exact Or.inr (h.omissible.2 hread)
  | some j => exact h.value.only hj hread

end Member.Agrees

theorem exists_of_forall₂ {α : Type u} {β : Type v} {R : α → β → Prop} {as : List α} {bs : List β}
    (h : List.Forall₂ R as bs) {b : β} (hb : b ∈ bs) : ∃ a ∈ as, R a b := by
  obtain ⟨i, hi, rfl⟩ := List.mem_iff_getElem.1 hb
  have hlength := h.length_eq
  exact ⟨as[i], List.getElem_mem (by omega), h.get (by omega) hi⟩

/-- A record is read from its members, and from no fewer. -/
theorem Layout.matches_record {L : Layout σ} {record : σ} {parts : List Form.Part} (name : String)
    (h : List.Forall₂ (fun m p => m.Agrees L.blank record p) L.members parts) :
    Matches (Decoder.record name L.blank L.slots) record (.record parts) := by
  constructor
  · rintro j ⟨members, rfl, hkeys, hfits⟩
    rw [L.record_eq_ok_iff name hkeys]
    intro m hm
    obtain ⟨p, hp, hagrees⟩ := exists_of_forall₂ h.flip hm
    have hread := hagrees.isRead_of_fits (hfits p hp)
    rwa [← hagrees.key] at hread
  · rintro j ⟨members, rfl, hkeys, hfits⟩ hdecode
    rw [L.record_eq_ok_iff name hkeys] at hdecode
    refine ⟨members, rfl, hkeys, fun p hp => ?_⟩
    obtain ⟨m, hm, hagrees⟩ := exists_of_forall₂ h hp
    have hread := hdecode m hm
    rw [hagrees.key] at hread
    exact hagrees.fits_of_isRead (hfits p hp) hread

end Decoder

end EntityRelation
