import EntityRelation.Proofs.Ddl.TableImport
import EntityRelation.Proofs.Schema.ViewByField

/-!
# Where ends go

An imported table has a new id, and so has each of its columns. `importedEnd` follows an end of a
relationship to its new ids. It tells ends apart, and the things that new ids and old names stand
for in the imported schema are those that the old ids stood for.
-/

namespace EntityRelation

namespace Ddl

/-- An end of a relationship after the import of entities in an order. -/
def importedEnd (es : List Entity) (p : Endpoint) : Endpoint :=
  let i := es.findIdx (·.id == p.entity)
  ⟨entityIdAt i, fieldIdAt i ((es[i]?.map fun e => e.fields.findIdx (·.id == p.field)).getD 0)⟩

/-- An end is the field at one index of the entity at another. -/
structure IsAt (es : List Entity) (p : Endpoint) (i j : Nat) (e : Entity) (f : Field) : Prop where
  entity : es[i]? = some e
  field : e.fields[j]? = some f
  entity_id : e.id = p.entity
  field_id : f.id = p.field

theorem findIdx_key_eq {α κ : Type} [BEq κ] [LawfulBEq κ] {key : α → κ} {as : List α}
    (h : (as.map key).Nodup) {i : Nat} {a : α} (ha : as[i]? = some a) :
    as.findIdx (fun b => key b == key a) = i := by
  obtain ⟨hi, rfl⟩ := List.getElem?_eq_some_iff.1 ha
  rw [List.findIdx_eq hi]
  refine ⟨beq_self_eq_true _, fun j hj => ?_⟩
  rw [beq_eq_false_iff_ne]
  intro heq
  have hmap : (as.map key)[j]? = (as.map key)[i]? := by
    rw [List.getElem?_map, List.getElem?_map, List.getElem?_eq_getElem hi,
      List.getElem?_eq_getElem (hj.trans hi), Option.map_some, Option.map_some, heq]
  have hji := (List.getElem?_inj (by rw [List.length_map]; exact hj.trans hi) h).1 hmap
  omega

section

variable {s : Schema} (hs : s.DistinctIds) {es : List Entity} (hes : es.Perm s.entities)
  {p p' : Endpoint} {i j i' j' : Nat} {e e' : Entity} {f f' : Field}

include hes

theorem exists_isAt (h : s.endpoint? p = some (e, f)) : ∃ i j, IsAt es p i j e f := by
  obtain ⟨hentity, hfield⟩ := (Schema.endpoint?_eq_some_iff p).1 h
  obtain ⟨i, hi⟩ := List.mem_iff_getElem?.1 (hes.mem_iff.2 (Schema.mem_of_entity? hentity))
  obtain ⟨j, hj⟩ := List.mem_iff_getElem?.1 (Entity.mem_of_field? hfield)
  exact ⟨i, j, hi, hj, Schema.id_of_entity? hentity, Entity.id_of_field? hfield⟩

include hs

theorem entityIds_nodup : (es.map (·.id)).Nodup :=
  (hes.map (·.id)).nodup_iff.2 hs.entities

theorem fieldIds_nodup (he : es[i]? = some e) : (e.fields.map (·.id)).Nodup :=
  hs.fields e (hes.subset (List.mem_of_getElem? he))

theorem importedEnd_eq (h : IsAt es p i j e f) :
    importedEnd es p = ⟨entityIdAt i, fieldIdAt i j⟩ := by
  have hentity := findIdx_key_eq (entityIds_nodup hs hes) h.entity
  have hfield := findIdx_key_eq (fieldIds_nodup hs hes h.entity) h.field
  rw [h.entity_id] at hentity
  rw [h.field_id] at hfield
  rw [importedEnd]
  simp only [hentity, h.entity, Option.map_some, hfield, Option.getD_some]

theorem importedEnd_inj (h : IsAt es p i j e f) (h' : IsAt es p' i' j' e' f')
    (heq : importedEnd es p = importedEnd es p') : p = p' := by
  rw [importedEnd_eq hs hes h, importedEnd_eq hs hes h', Endpoint.mk.injEq] at heq
  obtain rfl := entityIdAt_injective heq.1
  obtain rfl := fieldIdAt_injective i heq.2
  obtain rfl := Option.some.inj (h.entity.symm.trans h'.entity)
  obtain rfl := Option.some.inj (h.field.symm.trans h'.field)
  have hentity := h.entity_id.symm.trans h'.entity_id
  have hfield := h.field_id.symm.trans h'.field_id
  cases p
  cases p'
  rw [Endpoint.mk.injEq]
  exact ⟨hentity, hfield⟩

end

end Ddl

end EntityRelation
