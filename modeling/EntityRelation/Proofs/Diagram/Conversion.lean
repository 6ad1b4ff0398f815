import EntityRelation.Diagram.Basic
import EntityRelation.Proofs.Schema.ViewByPlace

/-!
# Converting between schemas and diagrams

A diagram holds all of a schema, so coming back from it gives the schema with its foreign key view
recomputed (`toSchema_ofSchema`). A schema holds all of a diagram but four things that it makes up
again: the suffix of either handle of an edge, the style of an edge, and the foreign key view of the
fields. `Diagram.IsCanonical` asks that these are as they would be made up, and is exactly what a
diagram needs to come back as it was (`conversion_exact`).
-/

namespace EntityRelation

namespace Diagram

/-! ## Handles -/

theorem withoutSuffix_append (ending text : String) :
    withoutSuffix ending (text ++ ending) = text := by
  have hsuffix : ending.toList.isSuffixOf (text ++ ending).toList = true := by
    rw [List.isSuffixOf_iff_suffix, String.toList_append]
    exact List.suffix_append _ _
  have hlength : (text ++ ending).length - ending.length = text.toList.length := by
    rw [String.length_append, Nat.add_sub_cancel, String.length_toList]
  rw [withoutSuffix, if_pos hsuffix, hlength, String.toList_append, List.take_left,
    String.ofList_toList]

/-- A suffix is taken off once. -/
example : withoutSuffix sourceSuffix "id-source-source" = "id-source" := by decide

/-- Only the suffix itself can be put back. -/
theorem withoutSuffix_append_eq_iff (ending text : String) :
    withoutSuffix ending text ++ ending = text ↔ ending.toList <:+ text.toList := by
  constructor
  · intro h
    rw [← h, String.toList_append]
    exact List.suffix_append _ _
  · rintro ⟨front, hfront⟩
    have htext : text = String.ofList front ++ ending := by
      rw [← String.toList_inj, String.toList_append, String.toList_ofList, hfront]
    rw [htext, withoutSuffix_append]

/-! ## Relationships and edges -/

theorem toRelationship_ofRelationship (r : Relationship) :
    (Edge.ofRelationship r).toRelationship = r := by
  rw [Edge.ofRelationship, Edge.toRelationship, Edge.sourceField, Edge.targetField]
  simp only [withoutSuffix_append]

/-- What an edge has besides its relationship is as the relationship gives it. -/
structure Edge.IsCanonical (e : Edge) : Prop where
  source : sourceSuffix.toList <:+ e.sourceHandle.toList
  target : targetSuffix.toList <:+ e.targetHandle.toList
  style : e.style = .ofCardinality e.label

theorem ofRelationship_toRelationship_iff (e : Edge) :
    Edge.ofRelationship e.toRelationship = e ↔ e.IsCanonical := by
  have hparts : Edge.ofRelationship e.toRelationship = e ↔
      withoutSuffix sourceSuffix e.sourceHandle ++ sourceSuffix = e.sourceHandle ∧
        withoutSuffix targetSuffix e.targetHandle ++ targetSuffix = e.targetHandle ∧
        EdgeStyle.ofCardinality e.label = e.style := by
    obtain ⟨id, source, target, sourceHandle, targetHandle, label, style⟩ := e
    simp only [Edge.ofRelationship, Edge.toRelationship, Edge.sourceField, Edge.targetField,
      Edge.mk.injEq, true_and]
  rw [hparts, withoutSuffix_append_eq_iff, withoutSuffix_append_eq_iff]
  constructor
  · rintro ⟨hsource, htarget, hstyle⟩
    exact ⟨hsource, htarget, hstyle.symm⟩
  · rintro ⟨hsource, htarget, hstyle⟩
    exact ⟨hsource, htarget, hstyle.symm⟩

theorem map_map_eq_self_iff {α β : Type} {f : α → β} {g : β → α} {as : List α} :
    (as.map f).map g = as ↔ ∀ a ∈ as, g (f a) = a := by
  rw [List.map_map]
  constructor
  · intro h
    exact List.map_inj_left.1 (h.trans (List.map_id as).symm)
  · intro h
    exact (List.map_congr_left h).trans (List.map_id as)

/-! ## Schemas and diagrams -/

theorem rawSchema_ofSchema (s : Schema) : (ofSchema s).rawSchema = s := by
  refine Schema.ext_of ?_ ?_
  · exact map_map_eq_self_iff.2 fun e _ => Node.toEntity_ofEntity e
  · exact map_map_eq_self_iff.2 fun r _ => toRelationship_ofRelationship r

theorem toSchema_ofSchema (s : Schema) : (ofSchema s).toSchema = s.syncForeignKeys := by
  rw [toSchema, rawSchema_ofSchema]

/-- What a diagram has besides its schema is as the schema gives it: each edge, and the foreign key
view that the fields of the nodes carry. -/
structure IsCanonical (d : Diagram) : Prop where
  edges : ∀ e ∈ d.edges, e.IsCanonical
  view : d.rawSchema.ViewHolds

theorem ofSchema_toSchema_iff (d : Diagram) : ofSchema d.toSchema = d ↔ d.IsCanonical := by
  have hedges : d.toSchema.relationships = d.edges.map Edge.toRelationship :=
    Schema.relationships_syncForeignKeys d.rawSchema
  have hparts : ofSchema d.toSchema = d ↔
      d.toSchema.entities.map Node.ofEntity = d.nodes ∧
        (d.edges.map Edge.toRelationship).map Edge.ofRelationship = d.edges := by
    obtain ⟨nodes, edges⟩ := d
    rw [ofSchema, mk.injEq, hedges]
  have hnodes : d.toSchema.entities.map Node.ofEntity = d.nodes ↔ d.rawSchema.Synced := by
    rw [Schema.Synced]
    constructor
    · intro h
      refine Schema.ext_of ?_ (Schema.relationships_syncForeignKeys d.rawSchema)
      have hback : (d.toSchema.entities.map Node.ofEntity).map Node.toEntity =
          d.toSchema.entities := map_map_eq_self_iff.2 fun e _ => Node.toEntity_ofEntity e
      rw [h] at hback
      exact hback.symm
    · intro h
      rw [toSchema, h]
      exact map_map_eq_self_iff.2 fun n _ => Node.ofEntity_toEntity n
  rw [hparts, hnodes, Schema.synced_iff_viewHolds, map_map_eq_self_iff]
  simp only [ofRelationship_toRelationship_iff]
  exact ⟨fun h => ⟨h.2, h.1⟩, fun h => ⟨h.view, h.edges⟩⟩

/-- A schema comes back from its diagram with its foreign key view recomputed, so as it was if its
view is that of its relationships. A diagram comes back from its schema as it was if what it has
besides is as the schema gives it. Nothing else is asked of either. -/
theorem conversion_exact :
    (∀ s : Schema, (ofSchema s).toSchema = s.syncForeignKeys ∧
      ((ofSchema s).toSchema = s ↔ s.ViewHolds)) ∧
    ∀ d : Diagram, ofSchema d.toSchema = d ↔ d.IsCanonical := by
  refine ⟨fun s => ⟨toSchema_ofSchema s, ?_⟩, ofSchema_toSchema_iff⟩
  rw [toSchema_ofSchema, ← Schema.synced_iff_viewHolds]
  rfl

end Diagram

end EntityRelation
