import EntityRelation.Proofs.Schema.WellFormed

/-!
# The foreign key view place by place

An id stands for the first element that bears it, so an end of a relationship has at most one place
in a schema: the index of an entity and the index of one of its fields (`Schema.place?`). Places
are told apart even where ids are not. Recomputing the foreign key view gives the field at every
place what the first relationship says that has both ends there and its child end at that place
(`syncForeignKeys_eq_mapPlaces`), whatever else is wrong with the schema.
-/

namespace EntityRelation

theorem updateFirst_eq_mapIdx {α : Type} (p : α → Bool) (f : α → α) (as : List α) :
    updateFirst p f as = as.mapIdx fun i a => if as.findIdx? p = some i then f a else a := by
  induction as with
  | nil => rfl
  | cons a rest ih =>
      rw [updateFirst_cons, List.mapIdx_cons, List.findIdx?_cons]
      by_cases ha : p a
      · have hrest : (rest.mapIdx fun i a => if some 0 = some (i + 1) then f a else a) = rest := by
          simp [List.mapIdx_eq_iff]
        simp only [ha, if_true, hrest]
      · simp [ha, ih]

namespace Schema

variable (s : Schema)

/-- The place that an end stands for: the indices of an entity and of one of its fields. -/
def place? (p : Endpoint) : Option (Nat × Nat) :=
  (s.entities.findIdx? (·.id == p.entity)).bind fun i =>
    (s.entities[i]?.bind fun e => e.fields.findIdx? (·.id == p.field)).map (i, ·)

/-- The column that the field at a place references, by the first relationship that it is the child
end of. -/
def viewAt (i j : Nat) : Option ColumnName :=
  (s.references.find? fun claim => s.place? claim.1 == some (i, j)).map (·.2)

/-- The foreign key view says of every field what the relationships say of its place. -/
def ViewHolds : Prop :=
  ∀ i e, s.entities[i]? = some e → ∀ j f, e.fields[j]? = some f →
    f.isForeignKey = (s.viewAt i j).isSome ∧ f.references = s.viewAt i j

/-- The schema with every field changed according to its place. -/
def mapPlaces (g : Nat → Nat → Field → Field) : Schema :=
  { s with entities := s.entities.mapIdx fun i e => { e with fields := e.fields.mapIdx (g i) } }

variable {s} {g g' : Nat → Nat → Field → Field}

theorem place?_eq_some_iff {p : Endpoint} {i j : Nat} :
    s.place? p = some (i, j) ↔ s.entities.findIdx? (·.id == p.entity) = some i ∧
      ∃ e, s.entities[i]? = some e ∧ e.fields.findIdx? (·.id == p.field) = some j := by
  simp only [place?, Option.bind_eq_some_iff, Option.map_eq_some_iff, Prod.mk.injEq]
  constructor
  · rintro ⟨i', hi, j', ⟨e, he, hj⟩, rfl, rfl⟩
    exact ⟨hi, e, he, hj⟩
  · rintro ⟨hi, e, he, hj⟩
    exact ⟨i, hi, j, ⟨e, he, hj⟩, rfl, rfl⟩

theorem findIdx?_congr_map {α κ : Type} [BEq κ] {key : α → κ} {as bs : List α}
    (h : as.map key = bs.map key) (k : κ) :
    as.findIdx? (fun a => key a == k) = bs.findIdx? fun a => key a == k := by
  have hmap : ∀ l : List α, l.findIdx? (fun a => key a == k) = (l.map key).findIdx? (· == k) :=
    fun l => by rw [List.findIdx?_map]; rfl
  rw [hmap, hmap, h]

/-- Changes that keep ids keep places. -/
theorem place?_mapPlaces (hg : ∀ i j f, (g i j f).id = f.id) (p : Endpoint) :
    (s.mapPlaces g).place? p = s.place? p := by
  have hentities : (s.mapPlaces g).entities.map (·.id) = s.entities.map (·.id) := by
    refine List.ext_getElem? fun i => ?_
    simp only [mapPlaces, List.getElem?_map, List.getElem?_mapIdx, Option.map_map]
    rfl
  have hfields : ∀ i (e : Entity), (e.fields.mapIdx (g i)).map (·.id) = e.fields.map (·.id) := by
    intro i e
    refine List.ext_getElem? fun j => ?_
    simp only [List.getElem?_map, List.getElem?_mapIdx, Option.map_map]
    exact congrArg (Option.map · e.fields[j]?) (funext fun f => hg i j f)
  rw [place?, place?, findIdx?_congr_map hentities]
  refine Option.bind_congr fun i _ => ?_
  rw [mapPlaces, List.getElem?_mapIdx, Option.bind_map]
  refine congrArg (Option.map (i, ·)) (Option.bind_congr fun e _ => ?_)
  exact findIdx?_congr_map (hfields i e) p.field

theorem mapPlaces_mapPlaces :
    (s.mapPlaces g).mapPlaces g' = s.mapPlaces fun i j f => g' i j (g i j f) := by
  refine ext_of (List.ext_getElem? fun i => ?_) rfl
  simp only [mapPlaces, List.getElem?_mapIdx, Option.map_map]
  refine congrArg (Option.map · s.entities[i]?) (funext fun e => ?_)
  simp [List.mapIdx_mapIdx, Function.comp_def]

theorem mapPlaces_eq_self_iff : s.mapPlaces g = s ↔
    ∀ i e, s.entities[i]? = some e → ∀ j f, e.fields[j]? = some f → g i j f = f := by
  constructor
  · intro h i e he j f hf
    have hentity := congrArg (fun t : Schema => t.entities[i]?) h
    simp only [mapPlaces, List.getElem?_mapIdx, he, Option.map_some, Option.some.injEq] at hentity
    have hfield := congrArg (fun e : Entity => e.fields[j]?) hentity
    simpa [List.getElem?_mapIdx, hf] using hfield
  · intro h
    refine ext_of (List.ext_getElem? fun i => ?_) rfl
    rw [mapPlaces, List.getElem?_mapIdx]
    cases he : s.entities[i]? with
    | none => rfl
    | some e =>
        have hfields : e.fields.mapIdx (g i) = e.fields := by
          refine List.ext_getElem? fun j => ?_
          rw [List.getElem?_mapIdx]
          cases hf : e.fields[j]? with
          | none => rfl
          | some f => rw [Option.map_some, h i e he j f hf]
        rw [Option.map_some, hfields]

/-- Marking the field at an end is marking it at its place. -/
theorem markReference_eq_mapPlaces (claim : Endpoint × ColumnName) :
    s.markReference claim = s.mapPlaces fun i j f =>
      if s.place? claim.1 = some (i, j) then f.markReference claim.2 else f := by
  refine ext_of (List.ext_getElem? fun i => ?_) rfl
  rw [markReference, updateEntity, mapPlaces, updateFirst_eq_mapIdx, List.getElem?_mapIdx,
    List.getElem?_mapIdx]
  cases he : s.entities[i]? with
  | none => rfl
  | some e =>
      rw [Option.map_some, Option.map_some]
      by_cases hi : s.entities.findIdx? (·.id == claim.1.entity) = some i
      · have hplace : ∀ j, s.place? claim.1 = some (i, j) ↔
            e.fields.findIdx? (·.id == claim.1.field) = some j := by
          intro j
          rw [place?_eq_some_iff, he]
          simp [hi]
        rw [if_pos hi, Entity.updateField, updateFirst_eq_mapIdx]
        simp only [hplace]
      · have hplace : ∀ j, ¬s.place? claim.1 = some (i, j) := fun j hj =>
          hi (place?_eq_some_iff.1 hj).1
        have hsame : e.fields.mapIdx (fun _ f => f) = e.fields := by
          simp [List.mapIdx_eq_iff]
        simp only [hplace, if_neg hi, if_false, hsame]

theorem foldl_markReference_eq_mapPlaces (claims : List (Endpoint × ColumnName)) (s : Schema) :
    claims.foldl markReference s = s.mapPlaces fun i j f =>
      claims.foldl (fun f claim =>
        if s.place? claim.1 = some (i, j) then f.markReference claim.2 else f) f := by
  induction claims generalizing s with
  | nil => exact (mapPlaces_eq_self_iff.2 fun _ _ _ _ _ _ => rfl).symm
  | cons claim claims ih =>
      have hid : ∀ (i j : Nat) (f : Field),
          (if s.place? claim.1 = some (i, j) then f.markReference claim.2 else f).id = f.id := by
        intro i j f
        split
        · exact f.id_markReference _
        · rfl
      rw [List.foldl_cons, ih, markReference_eq_mapPlaces, mapPlaces_mapPlaces]
      simp only [place?_mapPlaces hid]
      rfl

/-! ## Recomputing the view -/

/-- The field with the foreign key view of an end. -/
def viewField (target : Option ColumnName) (f : Field) : Field :=
  { f with isForeignKey := target.isSome, references := target }

section

variable (here : Endpoint → Bool)

theorem foldl_marked {f : Field} (hf : f.isForeignKey = true)
    (claims : List (Endpoint × ColumnName)) :
    claims.foldl (fun f claim => if here claim.1 then f.markReference claim.2 else f) f = f := by
  induction claims with
  | nil => rfl
  | cons claim claims ih =>
      have hsame : (if here claim.1 then f.markReference claim.2 else f) = f := by
        rw [Field.markReference, if_pos hf, ite_self]
      rw [List.foldl_cons, hsame, ih]

/-- Of the claims about a field, the first one stays. -/
theorem foldl_clear (f : Field) (claims : List (Endpoint × ColumnName)) :
    claims.foldl (fun f claim => if here claim.1 then f.markReference claim.2 else f)
      f.clearReference = viewField ((claims.find? (here ·.1)).map (·.2)) f := by
  induction claims with
  | nil => rfl
  | cons claim claims ih =>
      rw [List.foldl_cons, List.find?_cons]
      cases here claim.1 with
      | true => exact foldl_marked here rfl claims
      | false => exact ih

end

/-- Recomputing the view gives every field what the relationships say of its place. -/
theorem syncForeignKeys_eq_mapPlaces (s : Schema) :
    s.syncForeignKeys = s.mapPlaces fun i j f => viewField (s.viewAt i j) f := by
  have hclear : s.mapFields Field.clearReference = s.mapPlaces fun _ _ f => f.clearReference := by
    refine ext_of (List.ext_getElem? fun i => ?_) rfl
    rw [mapFields, mapPlaces, List.getElem?_map, List.getElem?_mapIdx]
    simp only [mapIdx_const]
  have hid : ∀ (i j : Nat) (f : Field), f.clearReference.id = f.id := fun _ _ _ => rfl
  rw [syncForeignKeys, hclear, foldl_markReference_eq_mapPlaces, mapPlaces_mapPlaces]
  refine congrArg s.mapPlaces (funext fun i => funext fun j => funext fun f => ?_)
  have hclaims := foldl_clear (fun p => s.place? p == some (i, j)) f s.references
  simp only [beq_iff_eq] at hclaims
  simp only [place?_mapPlaces hid]
  exact hclaims

theorem viewField_eq_self_iff {target : Option ColumnName} {f : Field} :
    viewField target f = f ↔ f.isForeignKey = target.isSome ∧ f.references = target := by
  obtain ⟨id, name, dataType, isPrimaryKey, isForeignKey, isNotNull, isUnique, defaultValue,
    references⟩ := f
  simp only [viewField, Field.mk.injEq, true_and, eq_comm]

/-- The view is up to date just when every field says what its place says. -/
theorem synced_iff_viewHolds : s.Synced ↔ s.ViewHolds := by
  rw [Synced, syncForeignKeys_eq_mapPlaces, mapPlaces_eq_self_iff]
  simp only [ViewHolds, viewField_eq_self_iff]

end Schema

end EntityRelation
