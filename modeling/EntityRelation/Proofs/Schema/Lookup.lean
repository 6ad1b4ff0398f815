import EntityRelation.Schema.ForeignKeys
import Mathlib.Data.List.Nodup

/-!
# Look-up by id

An id stands for the first element that bears it. Where ids are distinct, it stands for the one
element that bears it, so a look-up by an id that has been read off an element finds that element.
The two ends of a relationship are looked up independently of each other.
-/

namespace EntityRelation

/-- Where keys are distinct, the first element with the key of an element is that element. -/
theorem find?_key_eq_some {α κ : Type} [BEq κ] [LawfulBEq κ] {key : α → κ} {as : List α}
    (h : (as.map key).Nodup) {a : α} (ha : a ∈ as) :
    as.find? (fun b => key b == key a) = some a := by
  induction as with
  | nil => cases ha
  | cons b rest ih =>
      rw [List.map_cons, List.nodup_cons] at h
      rcases List.mem_cons.1 ha with rfl | ha
      · simp
      · have hne : key b ≠ key a := fun he => h.1 (he ▸ List.mem_map_of_mem ha)
        simp [hne, ih h.2 ha]

/-- Where keys are distinct, an element is the only one with its key. -/
theorem filter_key_eq_singleton {α κ : Type} [BEq κ] [LawfulBEq κ] {key : α → κ} {as : List α}
    (h : (as.map key).Nodup) {a : α} (ha : a ∈ as) :
    as.filter (fun b => key b == key a) = [a] := by
  induction as with
  | nil => cases ha
  | cons b rest ih =>
      rw [List.map_cons, List.nodup_cons] at h
      rcases List.mem_cons.1 ha with rfl | ha
      · have hrest : rest.filter (fun b => key b == key a) = [] := by
          refine List.filter_eq_nil_iff.2 fun b hb heq => h.1 ?_
          exact eq_of_beq heq ▸ List.mem_map_of_mem hb
        simp [hrest]
      · have hne : key b ≠ key a := fun he => h.1 (he ▸ List.mem_map_of_mem ha)
        simp [hne, ih h.2 ha]

theorem map_mapIdx {α β γ : Type} (f : Nat → α → β) (g : β → γ) (as : List α) :
    (as.mapIdx f).map g = as.mapIdx fun i a => g (f i a) := by
  refine List.ext_getElem? fun i => ?_
  rw [List.getElem?_map, List.getElem?_mapIdx, List.getElem?_mapIdx, Option.map_map]
  rfl

theorem mapIdx_const {α β : Type} (f : α → β) (as : List α) :
    (as.mapIdx fun _ a => f a) = as.map f := by
  refine List.ext_getElem? fun i => ?_
  rw [List.getElem?_map, List.getElem?_mapIdx]

/-- Where keys are distinct, the first element with a key is at the index of that element. -/
theorem findIdx?_key_eq_some_iff {α κ : Type} [BEq κ] [LawfulBEq κ] {key : α → κ} {as : List α}
    (h : (as.map key).Nodup) {i : Nat} {a : α} (ha : as[i]? = some a) {k : κ} :
    as.findIdx? (fun b => key b == k) = some i ↔ key a = k := by
  obtain ⟨hi, rfl⟩ := List.getElem?_eq_some_iff.1 ha
  rw [List.findIdx?_eq_some_iff_getElem]
  constructor
  · rintro ⟨_, hkey, -⟩
    exact beq_iff_eq.1 hkey
  · rintro rfl
    refine ⟨hi, beq_self_eq_true _, fun j hj hkey => ?_⟩
    have hsame : (as.map key)[j]? = (as.map key)[i]? := by
      rw [List.getElem?_map, List.getElem?_map, ha, List.getElem?_eq_getElem (Nat.lt_trans hj hi)]
      exact congrArg some (beq_iff_eq.1 hkey)
    have hlt : j < (as.map key).length := by
      rw [List.length_map]
      exact Nat.lt_trans hj hi
    exact Nat.ne_of_lt hj ((List.getElem?_inj hlt h).1 hsame)

section FirstMatch

variable {α β κ : Type}

/-- What a change of elements leaves alone is the same after it. -/
theorem map_updateFirst (p : α → Bool) (f : α → α) (g : α → β) (h : ∀ a, g (f a) = g a)
    (as : List α) : (updateFirst p f as).map g = as.map g := by
  induction as with
  | nil => rfl
  | cons a rest ih =>
      rw [updateFirst_cons]
      by_cases ha : p a
      · simp [ha, h]
      · simp [ha, ih]

/-- When an element of the first list is changed, nothing behind that list is. -/
theorem updateFirst_append (p : α → Bool) (f : α → α) (as bs : List α) (h : as.any p) :
    updateFirst p f (as ++ bs) = updateFirst p f as ++ bs := by
  induction as with
  | nil => simp at h
  | cons a rest ih =>
      rw [List.cons_append, updateFirst_cons, updateFirst_cons]
      by_cases ha : p a
      · simp [ha]
      · simp [ha, ih (by simpa [ha] using h)]

theorem mem_updateFirst_of_match {p : α → Bool} {f : α → α} {as : List α} {b : α}
    (h : b ∈ updateFirst p f as) : b ∈ as ∨ ∃ a ∈ as, p a = true ∧ b = f a := by
  induction as with
  | nil => cases h
  | cons a rest ih =>
      rw [updateFirst_cons] at h
      split at h
      · next ha =>
        rcases List.mem_cons.1 h with rfl | h
        · exact Or.inr ⟨a, List.mem_cons_self, ha, rfl⟩
        · exact Or.inl (List.mem_cons_of_mem a h)
      · rcases List.mem_cons.1 h with rfl | h
        · exact Or.inl List.mem_cons_self
        · refine (ih h).imp (List.mem_cons_of_mem a) ?_
          rintro ⟨c, hc, hmatch, rfl⟩
          exact ⟨c, List.mem_cons_of_mem a hc, hmatch, rfl⟩

theorem mem_updateFirst {p : α → Bool} {f : α → α} {as : List α} {b : α}
    (h : b ∈ updateFirst p f as) : b ∈ as ∨ ∃ a ∈ as, b = f a :=
  (mem_updateFirst_of_match h).imp_right fun ⟨a, ha, _, hb⟩ => ⟨a, ha, hb⟩

variable [BEq κ] [LawfulBEq κ] {key : α → κ} {as : List α}

/-- A change of the first element with a key leaves the first one with another key alone. -/
theorem find?_updateFirst_key_of_ne {k k' : κ} (h : k' ≠ k) {f : α → α}
    (hf : ∀ a, key a = k → key (f a) = k) (as : List α) :
    (updateFirst (fun a => key a == k) f as).find? (fun a => key a == k') =
      as.find? fun a => key a == k' := by
  induction as with
  | nil => rfl
  | cons a rest ih =>
      rw [updateFirst_cons]
      by_cases ha : key a = k
      · rw [if_pos (beq_iff_eq.2 ha), List.find?_cons_of_neg (by simp [hf a ha, h.symm]),
          List.find?_cons_of_neg (by simp [ha, h.symm])]
      · rw [if_neg (by simp [ha]), List.find?_cons, List.find?_cons, ih]

/-- When the first element with a key is taken out, the first one with another key is the same. -/
theorem find?_eraseFirst_key_of_ne {k k' : κ} (h : k' ≠ k) (as : List α) :
    (eraseFirst (fun a => key a == k) as).find? (fun a => key a == k') =
      as.find? fun a => key a == k' := by
  induction as with
  | nil => rfl
  | cons a rest ih =>
      rw [eraseFirst]
      by_cases ha : key a = k
      · rw [if_pos (beq_iff_eq.2 ha), List.find?_cons_of_neg (by simp [ha, h.symm])]
      · rw [if_neg (by simp [ha]), List.find?_cons, List.find?_cons, ih]

/-- Where keys are distinct, the first element with a key is the only one that is changed. -/
theorem updateFirst_key_eq_map (h : (as.map key).Nodup) (k : κ) (f : α → α) :
    updateFirst (fun a => key a == k) f as = as.map fun a => if key a == k then f a else a := by
  induction as with
  | nil => rfl
  | cons a rest ih =>
      rw [List.map_cons, List.nodup_cons] at h
      rw [updateFirst_cons, List.map_cons]
      by_cases ha : key a == k
      · have hrest : ∀ b ∈ rest, (key b == k) = false := by
          intro b hb
          have hne : key b ≠ k := fun he =>
            h.1 (eq_of_beq ha ▸ he ▸ List.mem_map_of_mem hb)
          simpa using hne
        have hsame : rest.map (fun b => if key b == k then f b else b) = rest := by
          rw [List.map_congr_left (g := id) fun b hb => by simp [hrest b hb]]
          exact List.map_id rest
        simp only [ha, if_true, hsame]
      · simp [ha, ih h.2]

/-- Where keys are distinct, the first element with a key is the only one that is taken out. -/
theorem eraseFirst_key_eq_filter (h : (as.map key).Nodup) (k : κ) :
    eraseFirst (fun a => key a == k) as = as.filter fun a => !(key a == k) := by
  induction as with
  | nil => rfl
  | cons a rest ih =>
      rw [List.map_cons, List.nodup_cons] at h
      by_cases ha : key a == k
      · have hrest : ∀ b ∈ rest, (!(key b == k)) = true := by
          intro b hb
          have hne : key b ≠ k := fun he =>
            h.1 (eq_of_beq ha ▸ he ▸ List.mem_map_of_mem hb)
          simpa using hne
        simp [eraseFirst, ha, List.filter_eq_self.2 hrest]
      · simp [eraseFirst, ha, ih h.2]

/-- A value changed at the one element with a key stays distinct from the others, if its new value
differs from theirs. -/
theorem nodup_map_change {γ : Type} (h : (as.map key).Nodup) {v w : α → γ} (hv : (as.map v).Nodup)
    (k : κ) (hw : ∀ a ∈ as, key a = k → ∀ b ∈ as, key b ≠ k → v b ≠ w a) :
    (as.map fun a => if key a == k then w a else v a).Nodup := by
  induction as with
  | nil => exact List.nodup_nil
  | cons a rest ih =>
      rw [List.map_cons, List.nodup_cons] at h hv ⊢
      have hrest := ih h.2 hv.2 fun b hb hk c hc =>
        hw b (List.mem_cons_of_mem a hb) hk c (List.mem_cons_of_mem a hc)
      refine ⟨fun hmem => ?_, hrest⟩
      obtain ⟨b, hb, heq⟩ := List.mem_map.1 hmem
      have hne : key b ≠ key a := fun he => h.1 (he ▸ List.mem_map_of_mem hb)
      have hvne : v b ≠ v a := fun he => hv.1 (he ▸ List.mem_map_of_mem hb)
      have hba := List.mem_cons_of_mem a hb
      by_cases ha : key a = k
      · have hbk : key b ≠ k := fun he => hne (he.trans ha.symm)
        simp only [beq_iff_eq, ha, hbk, if_true, if_false] at heq
        exact hw a List.mem_cons_self ha b hba hbk heq
      · by_cases hbk : key b = k
        · simp only [beq_iff_eq, ha, hbk, if_true, if_false] at heq
          exact hw b hba hbk a List.mem_cons_self ha heq.symm
        · simp only [beq_iff_eq, ha, hbk, if_false] at heq
          exact hvne heq

theorem eraseFirst_sublist (p : α → Bool) (as : List α) : (eraseFirst p as).Sublist as := by
  induction as with
  | nil => exact List.Sublist.refl _
  | cons a rest ih =>
      by_cases ha : p a
      · simp [eraseFirst, ha]
      · simpa [eraseFirst, ha] using ih

end FirstMatch

namespace Entity

variable {e : Entity} {id : FieldId} {f : Field}

theorem mem_of_field? (h : e.field? id = some f) : f ∈ e.fields :=
  List.mem_of_find?_eq_some h

theorem id_of_field? (h : e.field? id = some f) : f.id = id := by
  simpa using List.find?_some h

theorem field?_eq_some (hids : (e.fields.map (·.id)).Nodup) (hf : f ∈ e.fields) :
    e.field? f.id = some f :=
  find?_key_eq_some hids hf

theorem field?_isSome_iff : (e.field? id).isSome ↔ ∃ f ∈ e.fields, f.id = id := by
  simp [field?, List.find?_isSome]

end Entity

namespace Schema

variable {s : Schema} {id : EntityId} {e : Entity} {f : Field}

theorem mem_of_entity? (h : s.entity? id = some e) : e ∈ s.entities :=
  List.mem_of_find?_eq_some h

theorem id_of_entity? (h : s.entity? id = some e) : e.id = id := by
  simpa using List.find?_some h

theorem entity?_eq_some (hids : (s.entities.map (·.id)).Nodup) (he : e ∈ s.entities) :
    s.entity? e.id = some e :=
  find?_key_eq_some hids he

theorem endpoint?_eq_some_iff (p : Endpoint) :
    s.endpoint? p = some (e, f) ↔ s.entity? p.entity = some e ∧ e.field? p.field = some f := by
  simp only [endpoint?, bind, Option.bind_eq_some_iff, pure, Option.some.injEq, Prod.mk.injEq]
  constructor
  · rintro ⟨e', he, f', hf, rfl, rfl⟩
    exact ⟨he, hf⟩
  · rintro ⟨he, hf⟩
    exact ⟨e, he, f, hf, rfl, rfl⟩

theorem endpoint?_isSome_iff (p : Endpoint) :
    (s.endpoint? p).isSome ↔ ∃ e, s.entity? p.entity = some e ∧ (e.field? p.field).isSome := by
  simp only [Option.isSome_iff_exists, Prod.exists, endpoint?_eq_some_iff]
  exact exists_congr fun e => exists_and_left

theorem resolve?_eq_some_iff (r : Relationship) (link : Link) :
    s.resolve? r = some link ↔
      s.endpoint? r.parent = some (link.parent, link.parentField) ∧
        s.endpoint? r.child = some (link.child, link.childField) := by
  simp only [resolve?, bind, Option.bind_eq_some_iff, pure, Option.some.injEq]
  constructor
  · rintro ⟨⟨p, pf⟩, hp, ⟨c, cf⟩, hc, rfl⟩
    exact ⟨hp, hc⟩
  · rintro ⟨hp, hc⟩
    exact ⟨_, hp, _, hc, rfl⟩

theorem resolve?_isSome_iff (r : Relationship) :
    (s.resolve? r).isSome ↔ (s.endpoint? r.parent).isSome ∧ (s.endpoint? r.child).isSome := by
  simp only [Option.isSome_iff_exists, resolve?_eq_some_iff]
  constructor
  · rintro ⟨link, hp, hc⟩
    exact ⟨⟨_, hp⟩, ⟨_, hc⟩⟩
  · rintro ⟨⟨⟨p, pf⟩, hp⟩, ⟨⟨c, cf⟩, hc⟩⟩
    exact ⟨⟨p, pf, c, cf⟩, hp, hc⟩

theorem childEnd_of_resolve? {r : Relationship} {link : Link} (h : s.resolve? r = some link) :
    s.entity? r.child.entity = some link.child ∧
      link.child.field? r.child.field = some link.childField :=
  (endpoint?_eq_some_iff r.child).1 ((resolve?_eq_some_iff r link).1 h).2

/-- A relationship whose child end bears the id of an entity ends in that entity. -/
theorem child_eq_of_resolve? (hids : (s.entities.map (·.id)).Nodup) (he : e ∈ s.entities)
    {r : Relationship} {link : Link} (h : s.resolve? r = some link)
    (hend : r.child.entity = e.id) : link.child = e := by
  have hchild := (childEnd_of_resolve? h).1
  rw [hend, entity?_eq_some hids he] at hchild
  exact (Option.some.inj hchild).symm

end Schema

end EntityRelation
