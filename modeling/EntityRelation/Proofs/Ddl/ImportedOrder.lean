import EntityRelation.Proofs.Ddl.ImportedView
import Mathlib.Data.List.Sort

/-!
# The order of imported tables

The tables of a script stand in its order, and so do the imported ones. To look for parents first
changes nothing about them then: where the script has put parents first, the order of the imported
tables is the least of all orders, and where tables depend on each other in a circle, the imported
ones do so too.
-/

namespace EntityRelation

/-- No rearrangement of increasing numbers comes before them. -/
theorem le_of_perm_of_pairwise {ns ms : List Nat} (h : ns.Pairwise (· < ·)) (hperm : ms.Perm ns) :
    ns ≤ ms := by
  induction ns generalizing ms with
  | nil => exact hperm.eq_nil.ge
  | cons n ns ih =>
      refine not_lt.1 fun hlt => ?_
      rw [List.pairwise_cons] at h
      cases hlt with
      | nil => exact absurd hperm.length_eq (by simp)
      | rel hless =>
          rcases List.mem_cons.1 (hperm.subset List.mem_cons_self) with rfl | hmem
          · exact lt_irrefl _ hless
          · exact lt_asymm hless (h.1 _ hmem)
      | cons hrest => exact absurd hrest (not_lt.2 (ih h.2 hperm.cons_inv))

/-- What stands before in a list has a smaller index. -/
theorem exists_lt_of_pair_sublist {α : Type} {as : List α} {a b : α} (h : [a, b].Sublist as) :
    ∃ i j : Nat, i < j ∧ as[i]? = some a ∧ as[j]? = some b := by
  obtain ⟨front, back, rfl, ha, hb⟩ := List.cons_sublist_iff.1 h
  obtain ⟨i, hi⟩ := List.mem_iff_getElem?.1 ha
  obtain ⟨j, hj⟩ := List.mem_iff_getElem?.1 (List.singleton_sublist.1 hb)
  have hlt : i < front.length := (List.getElem?_eq_some_iff.1 hi).1
  refine ⟨i, front.length + j, by omega, ?_, ?_⟩
  · rw [List.getElem?_append_left hlt, hi]
  · rw [List.getElem?_append_right (by omega), Nat.add_sub_cancel_left, hj]

/-- Of two numbers below a bound the smaller one comes first. -/
theorem pair_sublist_range {i j n : Nat} (hlt : i < j) (hj : j < n) :
    [i, j].Sublist (List.range n) := by
  have hincreasing : [i, j].Pairwise (· < ·) := by simpa using hlt
  refine List.sublist_of_subperm_of_pairwise ?_ hincreasing List.pairwise_lt_range
  refine List.subperm_of_subset (hincreasing.imp Nat.ne_of_lt) fun k hk => ?_
  rw [List.mem_range]
  rcases List.mem_cons.1 hk with rfl | hk
  · exact hlt.trans hj
  · exact List.mem_singleton.1 hk ▸ hj

namespace Schema

open Ddl Script

variable {s : Schema} (h : s.IsScriptable) (o : ScriptOptions)

theorem getElem?_imported {i : Nat} {e : Entity} :
    (s.imported o).entities[i]? = some e ↔
      ∃ old, (orderedEntities s o.order)[i]? = some old ∧ numberedEntity o i old = e := by
  rw [imported, List.getElem?_mapIdx, Option.map_eq_some_iff]

theorem isLast_imported {i j : Nat} :
    (s.imported o).IsLast (entityIdAt j) i ↔ i = j ∧ j < (orderedEntities s o.order).length := by
  constructor
  · intro hlast
    obtain ⟨e, he, hid⟩ := hlast.bears
    obtain ⟨old, hold, rfl⟩ := (getElem?_imported o).1 he
    obtain rfl := entityIdAt_injective hid
    exact ⟨rfl, (List.getElem?_eq_some_iff.1 hold).1⟩
  · rintro ⟨rfl, hlt⟩
    refine ⟨⟨_, (getElem?_imported o).2 ⟨_, List.getElem?_eq_getElem hlt, rfl⟩, rfl⟩, ?_⟩
    intro k e hk hid
    obtain ⟨old, -, rfl⟩ := (getElem?_imported o).1 hk
    exact (entityIdAt_injective hid).le

include h

/-- An entity stands at one index only. -/
theorem index_unique {i j : Nat} {e : Entity} (hi : (orderedEntities s o.order)[i]? = some e)
    (hj : (orderedEntities s o.order)[j]? = some e) : i = j := by
  have hids := entityIds_nodup h.toDistinctIds (orderedEntities_perm s o.order)
  exact (findIdx_key_eq hids hi).symm.trans (findIdx_key_eq hids hj)

/-- The imported tables depend on each other as their entities do. -/
theorem precedes_imported {i j : Nat} : (s.imported o).Precedes i j ↔
    i ≠ j ∧ ∃ r ∈ s.relationships, ∃ link, s.resolve? r = some link ∧
      (orderedEntities s o.order)[i]? = some link.parent ∧
      (orderedEntities s o.order)[j]? = some link.child := by
  have hes := orderedEntities_perm s o.order
  have hends : ∀ r ∈ s.relationships, ∃ link, s.resolve? r = some link ∧
      ∃ ip jp ic jc, IsAt (orderedEntities s o.order) r.parent ip jp link.parent link.parentField ∧
        IsAt (orderedEntities s o.order) r.child ic jc link.child link.childField := by
    intro r hr
    obtain ⟨link, hlink⟩ := Option.isSome_iff_exists.1 (h.resolves r hr)
    obtain ⟨hparent, hchild⟩ := (resolve?_eq_some_iff r link).1 hlink
    obtain ⟨ip, jp, hparent⟩ := exists_isAt hes hparent
    obtain ⟨ic, jc, hchild⟩ := exists_isAt hes hchild
    exact ⟨link, hlink, ip, jp, ic, jc, hparent, hchild⟩
  refine and_congr_right fun _ => ?_
  constructor
  · rintro ⟨r', hr', hi, hj⟩
    obtain ⟨k, hk, rfl⟩ := List.mem_mapIdx.1 hr'
    have hr := mem_of_mem_relationshipsOf (List.getElem_mem hk)
    obtain ⟨link, hlink, ip, jp, ic, jc, hparent, hchild⟩ := hends _ hr
    rw [importedRelationship, importedEnd_eq h.toDistinctIds hes hparent, isLast_imported] at hi
    rw [importedRelationship, importedEnd_eq h.toDistinctIds hes hchild, isLast_imported] at hj
    exact ⟨_, hr, link, hlink, hi.1 ▸ hparent.entity, hj.1 ▸ hchild.entity⟩
  · rintro ⟨r, hr, link, hlink, hi, hj⟩
    obtain ⟨link', hlink', ip, jp, ic, jc, hparent, hchild⟩ := hends r hr
    obtain rfl := Option.some.inj (hlink'.symm.trans hlink)
    obtain rfl := index_unique h o hparent.entity hi
    obtain rfl := index_unique h o hchild.entity hj
    obtain ⟨k, hk, hget⟩ := List.mem_iff_getElem.1
      ((relationshipsOf_perm h hes).mem_iff.2 hr)
    refine ⟨importedRelationship (orderedEntities s o.order) k r,
      List.mem_mapIdx.2 ⟨k, hk, by rw [hget]⟩, ?_, ?_⟩
    · rw [importedRelationship, importedEnd_eq h.toDistinctIds hes hparent, isLast_imported]
      exact ⟨rfl, (List.getElem?_eq_some_iff.1 hi).1⟩
    · rw [importedRelationship, importedEnd_eq h.toDistinctIds hes hchild, isLast_imported]
      exact ⟨rfl, (List.getElem?_eq_some_iff.1 hj).1⟩

/-- In the order of a script that puts parents first, parents have smaller indices. -/
theorem lt_of_precedes_imported (horder : o.order = .dependencies)
    (hacyclic : ¬ ∃ i, Relation.TransGen s.Precedes i i) {i j : Nat}
    (hij : (s.imported o).Precedes i j) : i < j := by
  obtain ⟨hne, r, hr, link, hlink, hi, hj⟩ := (precedes_imported h o).1 hij
  have hdiffer : link.parent ≠ link.child := fun heq =>
    hne (index_unique h o hi (heq ▸ hj))
  have hbefore := parent_before_child h.entities hacyclic hr hlink hdiffer
  rw [← horder] at hbefore
  obtain ⟨i', j', hlt, hi', hj'⟩ := exists_lt_of_pair_sublist hbefore
  rw [index_unique h o hi hi', index_unique h o hj hj']
  exact hlt

/-- Where the script keeps the order of the schema, the entities depend on each other as the
imported tables do. -/
theorem precedes_imported_of_precedes (hkept : orderedEntities s o.order = s.entities) {i j : Nat}
    (hij : s.Precedes i j) : (s.imported o).Precedes i j := by
  obtain ⟨hne, r, hr, ⟨⟨p, hp, hpid⟩, -⟩, ⟨⟨c, hc, hcid⟩, -⟩⟩ := hij
  obtain ⟨link, hlink⟩ := Option.isSome_iff_exists.1 (h.resolves r hr)
  obtain ⟨hparent, hchild⟩ := (resolve?_eq_some_iff r link).1 hlink
  have hparent := ((endpoint?_eq_some_iff r.parent).1 hparent).1
  have hchild := ((endpoint?_eq_some_iff r.child).1 hchild).1
  rw [← hpid, entity?_eq_some h.entities (List.mem_of_getElem? hp)] at hparent
  rw [← hcid, entity?_eq_some h.entities (List.mem_of_getElem? hc)] at hchild
  rw [precedes_imported h o, hkept]
  exact ⟨hne, r, hr, link, hlink, Option.some.inj hparent ▸ hp, Option.some.inj hchild ▸ hc⟩

/-- Looking for parents first leaves the imported tables in the order of the script. -/
theorem orderedEntities_imported :
    orderedEntities (s.imported o) o.order = (s.imported o).entities := by
  cases horder : o.order with
  | insertion => rfl
  | dependencies =>
      cases hfind : (s.imported o).creationOrder? with
      | none => rw [orderedEntities, hfind]
      | some order =>
          have hacyclic : ¬ ∃ i, Relation.TransGen s.Precedes i i := by
            rintro ⟨i, hi⟩
            have hnone := s.creationOrder?_eq_none_iff.2 ⟨i, hi⟩
            have hkept : orderedEntities s o.order = s.entities := by
              rw [horder, orderedEntities, hnone]
            have hcycle := (s.imported o).creationOrder?_eq_none_iff.2
              ⟨i, hi.lift id fun _ _ => precedes_imported_of_precedes h o hkept⟩
            rw [hfind] at hcycle
            cases hcycle
          have hfirst : (s.imported o).IsCreationOrder
              (List.range (s.imported o).entities.length) := by
            refine ⟨List.Perm.refl _, fun i j hij => ?_⟩
            obtain ⟨-, r, -, link, -, -, hj⟩ := (precedes_imported h o).1 hij
            refine pair_sublist_range (lt_of_precedes_imported h o horder hacyclic hij) ?_
            rw [imported, List.length_mapIdx]
            exact (List.getElem?_eq_some_iff.1 hj).1
          have hrange : order = List.range (s.imported o).entities.length :=
            le_antisymm (creationOrder?_le _ hfind hfirst)
              (le_of_perm_of_pairwise List.pairwise_lt_range
                (creationOrder?_isCreationOrder _ hfind).perm)
          rw [orderedEntities, hfind, hrange]
          exact filterMap_getElem?_range _

end Schema

end EntityRelation
