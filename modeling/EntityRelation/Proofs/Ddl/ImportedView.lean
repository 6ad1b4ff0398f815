import EntityRelation.Proofs.Ddl.SchemaImport

/-!
# What is imported

`Schema.imported` is a schema with what a script does not say filled in: the ids are new, the tables
and relationships stand in the order of the script, a table without a noted position stands on the
grid, and every relationship has the standard cardinality. The imported tables have no foreign key
view yet, and recomputing it gives the view that the schema had (`syncForeignKeys_imported`).
-/

namespace EntityRelation

namespace Schema

open Ddl Script

/-- The column that a relationship runs from. -/
def column (s : Schema) (r : Relationship) : ColumnName :=
  ((s.resolve? r).map fun link => ⟨link.parent.name, link.parentField.name⟩).getD default

variable {s : Schema}

theorem references_eq (h : ∀ r ∈ s.relationships, (s.resolve? r).isSome) :
    s.references = s.relationships.map fun r => (r.child, s.column r) := by
  rw [references, ← List.filterMap_eq_map]
  refine List.filterMap_congr fun r hr => ?_
  obtain ⟨link, hlink⟩ := Option.isSome_iff_exists.1 (h r hr)
  simp only [reference?, column, hlink, Option.map_some, Option.getD_some, Function.comp_apply]

theorem view_eq {rs : List Relationship} {g : Relationship → Endpoint} {c : Relationship → ColumnName}
    (h : s.references = rs.map fun r => (g r, c r)) (p : Endpoint) :
    s.view p = (rs.find? fun r => g r == p).map c := by
  rw [view, h, List.find?_map, Option.map_map]
  rfl

theorem mem_of_mem_relationshipsOf {es : List Entity} {r : Relationship}
    (hr : r ∈ relationshipsOf s es) : r ∈ s.relationships := by
  obtain ⟨e, -, hr⟩ := List.mem_flatMap.1 hr
  exact (List.mem_filter.1 hr).1

/-- The relationships into one table keep their order. -/
theorem filter_relationshipsOf {es : List Entity} (hids : (es.map (·.id)).Nodup) {e : Entity}
    (he : e ∈ es) : (relationshipsOf s es).filter (·.child.entity == e.id) = s.incoming e.id := by
  have hother : ∀ id, id ≠ e.id → (s.incoming id).filter (·.child.entity == e.id) = [] := by
    intro id hid
    rw [List.filter_eq_nil_iff]
    intro r hr hchild
    exact hid ((beq_iff_eq.1 (List.mem_filter.1 hr).2).symm.trans (beq_iff_eq.1 hchild))
  have hnone : ∀ as : List Entity, (∀ a ∈ as, a.id ≠ e.id) →
      (relationshipsOf s as).filter (·.child.entity == e.id) = [] := by
    intro as has
    rw [relationshipsOf, List.filter_flatMap, List.flatMap_eq_nil_iff]
    exact fun a ha => hother a.id (has a ha)
  induction es with
  | nil => cases he
  | cons a es ih =>
      have hsplit : relationshipsOf s (a :: es) = s.incoming a.id ++ relationshipsOf s es := rfl
      rw [List.map_cons, List.nodup_cons] at hids
      rw [hsplit, List.filter_append]
      rcases List.mem_cons.1 he with rfl | hmem
      · have hself : (s.incoming e.id).filter (·.child.entity == e.id) = s.incoming e.id := by
          rw [List.filter_eq_self]
          exact fun r hr => (List.mem_filter.1 hr).2
        rw [hself, hnone es fun b hb hid => hids.1 (hid ▸ List.mem_map_of_mem hb), List.append_nil]
      · have hid : a.id ≠ e.id := fun heq => hids.1 (heq ▸ List.mem_map_of_mem hmem)
        rw [hother a.id hid, List.nil_append, ih hids.2 hmem]

theorem find?_relationshipsOf {es : List Entity} (hids : (es.map (·.id)).Nodup) {e : Entity}
    (he : e ∈ es) (id : FieldId) :
    (relationshipsOf s es).find? (fun r => r.child == ⟨e.id, id⟩) =
      s.relationships.find? fun r => r.child == ⟨e.id, id⟩ := by
  have hfilter : ∀ rs : List Relationship, (rs.filter (·.child.entity == e.id)).find?
      (fun r => r.child == ⟨e.id, id⟩) = rs.find? fun r => r.child == ⟨e.id, id⟩ := by
    intro rs
    rw [List.find?_filter]
    refine List.find?_congr fun r _ => ?_
    rw [Bool.eq_iff_iff, decide_eq_true_eq, beq_iff_eq, beq_iff_eq]
    constructor
    · exact fun h => h.2
    · exact fun h => ⟨by rw [h], h⟩
  rw [← hfilter, filter_relationshipsOf hids he, incoming, hfilter]

/-- An entity as it stands in the imported schema. -/
def numberedEntity (o : ScriptOptions) (index : Nat) (e : Entity) : Entity where
  id := entityIdAt index
  name := e.name
  fields := e.fields.mapIdx fun j f => { f with id := fieldIdAt index j }
  position := if o.includePositions then e.position else defaultPosition index

/-- The schema that a script is imported as. -/
def imported (s : Schema) (o : ScriptOptions) : Schema where
  entities := (orderedEntities s o.order).mapIdx (numberedEntity o)
  relationships :=
    (relationshipsOf s (orderedEntities s o.order)).mapIdx
      (importedRelationship (orderedEntities s o.order))

/-! ## The view of an imported schema -/

section

variable (h : s.IsScriptable) {es : List Entity} (hes : es.Perm s.entities) {o : ScriptOptions}
  {t : Schema} (ht : t.entities = es.mapIdx (importedEntity o))

include h hes ht

theorem endpoint?_imported {p : Endpoint} {i j : Nat} {e : Entity} {f : Field}
    (hp : IsAt es p i j e f) : t.endpoint? (importedEnd es p) =
      some (importedEntity o i e, importedField i j f) := by
  have hids : ((e.fields.mapIdx (importedField i)).map (·.id)).Nodup := by
    rw [map_mapIdx]
    exact nodup_mapIdx_index (fieldIdAt_injective i) e.fields
  have hfield : (importedEntity o i e).field? (fieldIdAt i j) = some (importedField i j f) :=
    find?_key_eq_some hids (mem_mapIdx_of_getElem? (importedField i) hp.field)
  rw [importedEnd_eq h.toDistinctIds hes hp, endpoint?_eq_some_iff]
  exact ⟨entity?_imported ht hp.entity, hfield⟩

/-- Both ends of a relationship are found again. -/
theorem resolve?_imported {r : Relationship} {link : Link} (hlink : s.resolve? r = some link)
    (k : Nat) : ∃ ip jp ic jc, t.resolve? (importedRelationship es k r) =
      some ⟨importedEntity o ip link.parent, importedField ip jp link.parentField,
        importedEntity o ic link.child, importedField ic jc link.childField⟩ := by
  obtain ⟨hparent, hchild⟩ := (resolve?_eq_some_iff r link).1 hlink
  obtain ⟨ip, jp, hparent⟩ := exists_isAt hes hparent
  obtain ⟨ic, jc, hchild⟩ := exists_isAt hes hchild
  exact ⟨ip, jp, ic, jc, (resolve?_eq_some_iff _ _).2
    ⟨endpoint?_imported h hes ht hparent, endpoint?_imported h hes ht hchild⟩⟩

theorem column_imported {r : Relationship} (hr : r ∈ s.relationships) (k : Nat) :
    (t.resolve? (importedRelationship es k r)).isSome ∧
      t.column (importedRelationship es k r) = s.column r := by
  obtain ⟨link, hlink⟩ := Option.isSome_iff_exists.1 (h.resolves r hr)
  obtain ⟨ip, jp, ic, jc, himported⟩ := resolve?_imported h hes ht hlink k
  constructor
  · rw [himported]
    rfl
  · rw [column, column, himported, hlink]
    rfl

variable (hrelationships : t.relationships = (relationshipsOf s es).mapIdx (importedRelationship es))

include hrelationships

theorem references_imported :
    t.references = (relationshipsOf s es).map fun r => (importedEnd es r.child, s.column r) := by
  have hresolves : ∀ r ∈ t.relationships, (t.resolve? r).isSome := by
    intro r' hr'
    rw [hrelationships] at hr'
    obtain ⟨k, hk, rfl⟩ := List.mem_mapIdx.1 hr'
    have hmem := mem_of_mem_relationshipsOf (List.getElem_mem hk)
    exact (column_imported h hes ht hmem k).1
  rw [references_eq hresolves, hrelationships, map_mapIdx, ← mapIdx_const, List.mapIdx_eq_mapIdx_iff]
  intro k hk
  have hmem := mem_of_mem_relationshipsOf (List.getElem_mem hk)
  rw [(column_imported h hes ht hmem k).2]
  rfl

/-- A column of an imported schema references what its field referenced. -/
theorem view_imported {i j : Nat} {e : Entity} {f : Field} (he : es[i]? = some e)
    (hf : e.fields[j]? = some f) :
    t.view ⟨entityIdAt i, fieldIdAt i j⟩ = s.view ⟨e.id, f.id⟩ := by
  have hat : IsAt es ⟨e.id, f.id⟩ i j e f := ⟨he, hf, rfl, rfl⟩
  have hchild : ∀ r ∈ relationshipsOf s es, (importedEnd es r.child == importedEnd es ⟨e.id, f.id⟩) =
      (r.child == ⟨e.id, f.id⟩) := by
    intro r hr
    obtain ⟨link, hlink⟩ := Option.isSome_iff_exists.1
      (h.resolves r (mem_of_mem_relationshipsOf hr))
    obtain ⟨-, hend⟩ := (resolve?_eq_some_iff r link).1 hlink
    obtain ⟨_, _, hend⟩ := exists_isAt hes hend
    rw [Bool.eq_iff_iff, beq_iff_eq, beq_iff_eq]
    constructor
    · exact importedEnd_inj h.toDistinctIds hes hend hat
    · exact congrArg (importedEnd es)
  rw [← importedEnd_eq h.toDistinctIds hes hat,
    view_eq (references_imported h hes ht hrelationships), view_eq (references_eq h.resolves),
    List.find?_congr hchild, 
    find?_relationshipsOf (entityIds_nodup h.toDistinctIds hes) (List.mem_of_getElem? he)]

/-- Recomputing the foreign key view of the imported tables gives the view of the schema again. -/
theorem syncForeignKeys_imported :
    t.syncForeignKeys = { t with entities := es.mapIdx (numberedEntity o) } := by
  have hids : t.DistinctIds := by
    constructor
    · rw [ht, map_mapIdx]
      exact nodup_mapIdx_index entityIdAt_injective es
    · intro e' he'
      rw [ht] at he'
      obtain ⟨i, _, rfl⟩ := List.mem_mapIdx.1 he'
      rw [importedEntity, map_mapIdx]
      exact nodup_mapIdx_index (fieldIdAt_injective i) _
  have hsynced := (syncForeignKeys_eq_self_iff h.toDistinctIds).1 h.synced
  rw [syncForeignKeys_eq hids]
  refine ext_of ?_ rfl
  rw [mapEnds, ht, map_mapIdx, List.mapIdx_eq_mapIdx_iff]
  intro i hi
  have hentity : es[i]? = some es[i] := List.getElem?_eq_getElem hi
  rw [importedEntity, numberedEntity]
  dsimp only
  rw [map_mapIdx]
  congr 1
  rw [List.mapIdx_eq_mapIdx_iff]
  intro j hj
  have hfield : es[i].fields[j]? = some es[i].fields[j] := List.getElem?_eq_getElem hj
  have hview := hsynced es[i] (hes.subset (List.getElem_mem hi)) es[i].fields[j]
    (List.getElem_mem hj)
  calc viewField (t.view ⟨entityIdAt i, fieldIdAt i j⟩) (importedField i j es[i].fields[j])
      = { viewField (s.view ⟨es[i].id, es[i].fields[j].id⟩) es[i].fields[j] with
          id := fieldIdAt i j } := by
        rw [view_imported h hes ht hrelationships hentity hfield]
        rfl
    _ = { es[i].fields[j] with id := fieldIdAt i j } := by rw [hview]

end

end Schema

end EntityRelation
