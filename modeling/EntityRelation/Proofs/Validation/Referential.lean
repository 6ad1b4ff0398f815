import EntityRelation.Proofs.Validation.WellFormed

/-!
# Schemas without referential errors

The validator reports every repeated id and every end of a relationship that is not there. So the
ids of a schema without such a report are distinct, and its relationships resolve
(`referential_of_errors`), whatever else is wrong with it. In the other direction, nothing of the
kind is reported about a closed schema whose tables have different names
(`isReferential_of_closed`).
-/

namespace EntityRelation

/-- Keys are distinct when no element has the key of one before it. -/
theorem nodup_map_of_front {α κ : Type} {key : α → κ} {as : List α}
    (h : ∀ front a back, as = front ++ a :: back → ∀ b ∈ front, key b ≠ key a) :
    (as.map key).Nodup := by
  induction as with
  | nil => exact List.nodup_nil
  | cons a rest ih =>
      rw [List.map_cons, List.nodup_cons]
      constructor
      · intro hmem
        obtain ⟨b, hb, hkey⟩ := List.mem_map.1 hmem
        obtain ⟨front, back, rfl⟩ := List.append_of_mem hb
        exact h (a :: front) b back rfl a List.mem_cons_self hkey.symm
      · refine ih fun front b back hrest c hc => ?_
        exact h (a :: front) b back (by rw [hrest]; rfl) c (List.mem_cons_of_mem a hc)

namespace Validator

variable {s : Schema}

/-- Keys are distinct when every repeated one is reported and nothing is. -/
theorem nodup_of_reported {α κ : Type} [BEq κ] [LawfulBEq κ] {key : α → κ} {as : List α}
    (f : List α → α → List Issue) (issueOf : α → Issue)
    (hkind : ∀ a, (issueOf a).isReferential = true)
    (hreport : ∀ before a, before.any (fun b => key b == key a) → issueOf a ∈ f before a)
    (h : ∀ issue ∈ flatMapAfter f [] as, issue.isReferential = false) : (as.map key).Nodup := by
  refine nodup_map_of_front fun front a back hlist b hb hkey => ?_
  have hfound : issueOf a ∈ flatMapAfter f [] as := by
    refine mem_flatMapAfter.2 ⟨front, a, back, hlist, hreport _ _ ?_⟩
    exact List.any_eq_true.2 ⟨b, by simpa using hb, by simpa using hkey⟩
  have hnot := h _ hfound
  rw [hkind a] at hnot
  cases hnot

theorem endpoint?_isSome_of_endErrors {r : Relationship} (side : RelationshipEnd)
    (h : ∀ issue ∈ endErrors s r side, issue.isReferential = false) :
    (s.endpoint? (side.of r)).isSome := by
  rw [endErrors] at h
  cases he : s.entity? (side.of r).entity with
  | none =>
      rw [he] at h
      simp [Issue.isReferential] at h
  | some e =>
      rw [he] at h
      dsimp only at h
      split at h
      · next hfield =>
        obtain ⟨f, hf⟩ := Option.isSome_iff_exists.1 hfield
        rw [(Schema.endpoint?_eq_some_iff _).2 ⟨he, hf⟩]
        rfl
      · simp [Issue.isReferential] at h

/-- A schema in which the validator finds no referential error is referential. -/
theorem referential_of_errors (v : Validator)
    (h : ∀ issue ∈ v.errors s, issue.isReferential = false) : s.Referential := by
  have hentities : ∀ issue ∈ flatMapAfter v.entityErrors [] s.entities,
      issue.isReferential = false := fun issue hi => h issue (by simp [errors, hi])
  have hcolumns : ∀ e ∈ s.entities, ∀ issue ∈ columnErrors e, issue.isReferential = false := by
    intro e he issue hi
    refine h issue ?_
    rw [errors, List.append_assoc, List.append_assoc]
    refine List.mem_append_right _ (List.mem_append_left _ ?_)
    exact List.mem_flatMap.2 ⟨e, he, hi⟩
  have hlinks : ∀ issue ∈ flatMapAfter (relationshipErrors s) [] s.relationships,
      issue.isReferential = false := fun issue hi => h issue (by simp [errors, hi])
  refine ⟨?_, fun e he => ?_, ?_, fun r hr => ?_⟩
  · refine nodup_of_reported v.entityErrors (.duplicateEntityId ·.id) (fun _ => rfl)
      (fun before e hany => ?_) hentities
    rw [entityErrors, if_pos hany]
    simp
  · refine nodup_of_reported (fieldErrors e.label) (.duplicateFieldId e.label ·.id) (fun _ => rfl)
      (fun before f hany => ?_) fun issue hi => hcolumns e he issue (List.mem_append_left _ hi)
    rw [fieldErrors, if_pos hany]
    simp
  · refine nodup_of_reported (relationshipErrors s) (.duplicateRelationshipId ·.id) (fun _ => rfl)
      (fun before r hany => ?_) hlinks
    rw [relationshipErrors, if_pos hany]
    simp
  · obtain ⟨front, back, hlist⟩ := List.append_of_mem hr
    have hreported : ∀ issue ∈ relationshipErrors s (front.reverse ++ []) r,
        issue.isReferential = false :=
      fun issue hi => hlinks issue (mem_flatMapAfter.2 ⟨front, r, back, hlist, hi⟩)
    refine (Schema.resolve?_isSome_iff r).2 ⟨?_, ?_⟩
    · exact endpoint?_isSome_of_endErrors .parent fun issue hi =>
        hreported issue (by simp [relationshipErrors, hi])
    · exact endpoint?_isSome_of_endErrors .child fun issue hi =>
        hreported issue (by simp [relationshipErrors, hi])

theorem isReferential_entityErrors (v : Validator) (hs : s.Referential) {issue : Issue}
    (h : issue ∈ flatMapAfter v.entityErrors [] s.entities) : issue.isReferential = false := by
  obtain ⟨front, e, back, hlist, h⟩ := mem_flatMapAfter.1 h
  have hids := hs.entityIds
  rw [hlist] at hids
  rcases List.mem_append.1 h with h | hname
  · rcases List.mem_append.1 h with hid | hfault
    · rw [any_key_front (fun e : Entity => e.id) hids, if_neg Bool.false_ne_true] at hid
      cases hid
    · obtain ⟨fault, -, rfl⟩ := List.mem_map.1 hfault
      rfl
  · split at hname
    · obtain rfl := List.mem_singleton.1 hname
      rfl
    · cases hname

theorem isReferential_columnErrors (hs : s.Referential) {e : Entity} (he : e ∈ s.entities)
    {issue : Issue} (h : issue ∈ columnErrors e) : issue.isReferential = false := by
  rcases List.mem_append.1 h with h | hkey
  · obtain ⟨front, f, back, hlist, h⟩ := mem_flatMapAfter.1 h
    have hids := hs.fieldIds e he
    rw [hlist] at hids
    rcases List.mem_append.1 h with hid | hname
    · rw [any_key_front (fun f : Field => f.id) hids, if_neg Bool.false_ne_true] at hid
      cases hid
    · split at hname
      · obtain rfl := List.mem_singleton.1 hname
        rfl
      · split at hname
        · obtain rfl := List.mem_singleton.1 hname
          rfl
        · cases hname
  · split at hkey
    · obtain rfl := List.mem_singleton.1 hkey
      rfl
    · cases hkey

/-- Nothing that the validator finds in a closed schema concerns ids or links, if the names of its
tables differ in more than ASCII case. -/
theorem isReferential_of_closed (v : Validator) (hs : s.Closed)
    (hnames : (s.entities.map fun e => Text.foldAscii e.name).Nodup) {issue : Issue}
    (h : issue ∈ v.errors s) : issue.isReferential = false := by
  rw [errors, relationshipErrors_eq_nil hs.toReferential, List.append_nil] at h
  rcases List.mem_append.1 h with h | hreference
  · rcases List.mem_append.1 h with hentity | hcolumn
    · exact isReferential_entityErrors v hs.toReferential hentity
    · obtain ⟨e, he, hcolumn⟩ := List.mem_flatMap.1 hcolumn
      exact isReferential_columnErrors hs.toReferential he hcolumn
  · obtain ⟨e, he, hreference⟩ := List.mem_flatMap.1 hreference
    obtain ⟨f, hf, hreference⟩ := List.mem_flatMap.1 hreference
    rw [referenceErrors_eq_nil hs.synced hnames he hf] at hreference
    cases hreference

end Validator

end EntityRelation
