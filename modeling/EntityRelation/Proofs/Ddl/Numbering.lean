import EntityRelation.Proofs.Ddl.TableExtension
import EntityRelation.Proofs.Schema.WellFormed
import EntityRelation.Proofs.Text.Numeral

/-!
# Imported schemas are numbered and closed

The table at an index of an imported schema has the id of that index, and so have its columns and
the relationships. No clause changes an id that has been given, so the numbering is kept from one
statement to the next (`Draft.Numbered.add`). Numbers tell ids apart, and a relationship is only
made between a column that was found and the column it stands for; so the schema is closed
(`closed_of_importScript`).
-/

namespace EntityRelation

namespace Ddl

/-- The id of the table at an index. -/
def entityIdAt (index : Nat) : EntityId :=
  ⟨"entity-" ++ toString index⟩

/-- The id of a column of the table at an index. -/
def fieldIdAt (index column : Nat) : FieldId :=
  ⟨"field-" ++ toString index ++ "-" ++ toString column⟩

/-- The id of a relationship. -/
def relationshipIdAt (index : Nat) : RelationshipId :=
  ⟨"relationship-" ++ toString index⟩

theorem entityIdAt_injective : Function.Injective entityIdAt :=
  fun _ _ h => Text.numbered_injective "entity-" (congrArg EntityId.text h)

theorem fieldIdAt_injective (index : Nat) : Function.Injective (fieldIdAt index) :=
  fun _ _ h => Text.numbered_injective _ (congrArg FieldId.text h)

theorem relationshipIdAt_injective : Function.Injective relationshipIdAt :=
  fun _ _ h => Text.numbered_injective "relationship-" (congrArg RelationshipId.text h)

/-- Ids that are numbered from zero on. -/
def NumberedBy {α κ : Type} (key : α → κ) (number : Nat → κ) (as : List α) : Prop :=
  as.map key = (List.range as.length).map number

namespace NumberedBy

variable {α κ : Type} {key : α → κ} {number : Nat → κ} {as : List α}

theorem nil : NumberedBy key number [] := rfl

theorem nodup (h : NumberedBy key number as) (hnumber : Function.Injective number) :
    (as.map key).Nodup := by
  rw [h]
  exact List.nodup_range.map hnumber

theorem append_singleton (h : NumberedBy key number as) {a : α} (ha : key a = number as.length) :
    NumberedBy key number (as ++ [a]) := by
  rw [NumberedBy, List.map_append, h, List.length_append, List.length_singleton, List.range_succ,
    List.map_append, List.map_singleton, List.map_singleton, ha]

theorem of_map_eq {bs : List α} (h : NumberedBy key number as) (hmap : bs.map key = as.map key) :
    NumberedBy key number bs := by
  have hlength : bs.length = as.length := by simpa using congrArg List.length hmap
  rw [NumberedBy, hmap, hlength]
  exact h

end NumberedBy

/-- A table whose id and columns are numbered by its index. -/
structure NumberedEntity (index : Nat) (e : Entity) : Prop where
  id : e.id = entityIdAt index
  fields : NumberedBy Field.id (fieldIdAt index) e.fields

/-- No clause changes an id, and a new column takes the next one. -/
theorem TableDraft.Extends.numbered {index : Nat} {P : Column → Prop} {d d' : TableDraft}
    (h : Extends index P d d') (hd : NumberedEntity index d.entity) :
    NumberedEntity index d'.entity := by
  induction h with
  | refl => exact hd
  | warn _ _ _ ih => exact ih
  | addKey _ _ ih => exact ih
  | pushColumn _ _ _ ih => exact ⟨ih.id, ih.fields.append_singleton rfl⟩
  | updateNamed name kept _ ih =>
      exact ⟨ih.id, ih.fields.of_map_eq (map_updateFirst _ _ Field.id (fun f => (kept f).1) _)⟩

namespace Draft

/-! ## The statements of a script -/

/-- Every table of a draft is numbered by its index. -/
def Numbered (draft : Draft) : Prop :=
  ∀ i e, draft.entities[i]? = some e → NumberedEntity i e

namespace Numbered

variable {draft : Draft}

theorem empty : Numbered {} := by
  intro i e h
  cases h

theorem addTable (h : draft.Numbered) (s : Statement) (name : String) (body : Clause) :
    (draft.addTable s name body).Numbered := by
  rw [Draft.addTable]
  split
  · exact h
  · dsimp only
    split
    · exact h
    · intro i e hi
      have hnew : NumberedEntity draft.entities.length
          (newTable draft.entities.length s name).entity := ⟨rfl, NumberedBy.nil⟩
      simp only [List.getElem?_append] at hi
      split at hi
      · exact h i e hi
      · next hlt =>
        rw [List.getElem?_singleton] at hi
        split at hi
        · next hzero =>
          obtain rfl := Option.some.inj hi
          obtain rfl : i = draft.entities.length := by omega
          have htable : TableDraft.Extends draft.entities.length (fun _ => True)
              (newTable draft.entities.length s name)
              (((newTable draft.entities.length s name).addColumns draft.entities.length s.line
                body.splitTopLevel).applyConstraints s.line body.splitTopLevel) :=
            TableDraft.extends_definition (fun _ _ _ _ => trivial) _
          exact htable.numbered hnew
        · cases hi

theorem alterTable (h : draft.Numbered) (s : Statement) (rest : Clause) :
    (draft.alterTable s rest).Numbered := by
  rw [Draft.alterTable]
  split
  · exact h
  · next name actions hname =>
    split
    · exact h
    · next index hindex =>
      split
      · exact h
      · next entity hentity =>
        intro i e hi
        simp only [List.getElem?_set] at hi
        split at hi
        · next heq =>
          split at hi
          · obtain rfl := Option.some.inj hi
            obtain rfl := heq
            have htable : TableDraft.Extends index (fun _ => True) { entity }
                ((Clause.splitTopLevel actions).foldl (TableDraft.addAction index s.line)
                  { entity }) :=
              TableDraft.extends_addActions (fun _ _ _ _ _ _ => trivial) { entity }
            exact htable.numbered (h _ entity hentity)
          · cases hi
        · exact h i e hi

theorem add (h : draft.Numbered) (s : Statement) : (draft.add s).Numbered := by
  rw [Draft.add]
  split
  · rw [Draft.createTable]
    split
    · exact h
    · exact h.addTable s _ _
  · exact h.alterTable s _
  · exact h

theorem foldl_add (h : draft.Numbered) (statements : List Statement) :
    (statements.foldl Draft.add draft).Numbered := by
  induction statements generalizing draft with
  | nil => exact h
  | cons s rest ih => exact ih (h.add s)

theorem entityIds (h : draft.Numbered) : (draft.entities.map (·.id)).Nodup := by
  have hnumbered : NumberedBy Entity.id entityIdAt draft.entities := by
    refine List.ext_getElem? fun i => ?_
    rw [List.getElem?_map, List.getElem?_map]
    cases hi : draft.entities[i]? with
    | none => simp [List.getElem?_eq_none_iff.1 hi]
    | some e =>
        have hlt : i < draft.entities.length := (List.getElem?_eq_some_iff.1 hi).1
        simp [hlt, (h i e hi).id]
  exact hnumbered.nodup entityIdAt_injective

theorem fieldIds (h : draft.Numbered) {e : Entity} (he : e ∈ draft.entities) :
    (e.fields.map (·.id)).Nodup := by
  obtain ⟨i, hi⟩ := List.mem_iff_getElem?.1 he
  exact (h i e hi).fields.nodup (fieldIdAt_injective i)

end Numbered

end Draft

/-! ## The relationships -/

theorem PendingKey.mem_of_parentField? {key : PendingKey} {parent : Entity} {f : Field}
    (h : key.parentField? parent = some f) : f ∈ parent.fields := by
  rw [parentField?] at h
  split at h
  · exact List.mem_of_find?_eq_some h
  · exact List.mem_of_mem_filter (List.mem_of_getElem? h)

theorem PendingKey.hasEnds {key : PendingKey} {s : Schema} {child : Entity} {p c : Endpoint}
    (hchild : child ∈ s.entities) (h : key.ends s child = .ok (p, c)) :
    s.HasEnd p ∧ s.HasEnd c := by
  rw [ends] at h
  split at h
  · cases h
  · next childField hchildField =>
    split at h
    · cases h
    · next parent hparent =>
      split at h
      · cases h
      · next parentField hparentField =>
        obtain ⟨rfl, rfl⟩ := Prod.mk.inj (Except.ok.inj h)
        have hmem := mem_of_parentField? hparentField
        exact ⟨⟨parent, List.mem_of_find?_eq_some hparent, rfl, parentField, hmem, rfl⟩,
          child, hchild, rfl, childField, List.mem_of_find?_eq_some hchildField, rfl⟩

namespace Resolution

/-- Relationships that are numbered and have their ends in a schema. -/
structure Sound (s : Schema) (r : Resolution) : Prop where
  numbered : NumberedBy Relationship.id relationshipIdAt r.relationships
  ends : ∀ rel ∈ r.relationships, s.HasEnd rel.parent ∧ s.HasEnd rel.child

variable {s : Schema} {r : Resolution}

theorem Sound.add (h : r.Sound s) (key : PendingKey) : (r.add s key).Sound s := by
  rw [Resolution.add]
  split
  · exact h
  · next child hchild =>
    split
    · exact ⟨h.numbered, h.ends⟩
    · next parentEnd childEnd hends =>
      rw [connect]
      split
      · exact h
      · exact ⟨h.numbered.append_singleton rfl, List.forall_mem_append.2 ⟨h.ends,
          List.forall_mem_singleton.2 (PendingKey.hasEnds (Schema.mem_of_entity? hchild) hends)⟩⟩

theorem Sound.foldl_add (h : r.Sound s) (keys : List PendingKey) :
    (keys.foldl (Resolution.add s) r).Sound s := by
  induction keys generalizing r with
  | nil => exact h
  | cons key rest ih => exact ih (h.add key)

end Resolution

theorem Draft.sound_resolution (draft : Draft) : draft.resolution.Sound draft.schema :=
  Resolution.Sound.foldl_add ⟨NumberedBy.nil, by simp⟩ draft.pendingKeys

/-! ## The schema -/

theorem Draft.Numbered.referential {draft : Draft} (h : draft.Numbered) :
    Schema.Referential ⟨draft.entities, draft.resolution.relationships⟩ := by
  have hsound := draft.sound_resolution
  refine ⟨h.entityIds, fun e he => h.fieldIds he, hsound.numbered.nodup relationshipIdAt_injective,
    fun r hr => ?_⟩
  obtain ⟨hp, hc⟩ := hsound.ends r hr
  exact Schema.resolve?_isSome h.entityIds hp hc

/-- An import that has read a table succeeds. -/
theorem Draft.finish_eq {draft : Draft} (h : draft.entities ≠ []) :
    draft.finish = .ok
      { schema :=
          { entities := draft.entities
            relationships := draft.resolution.relationships : Schema }.syncForeignKeys
        skipped := draft.skipped
        warnings := draft.warnings ++ draft.resolution.warnings } := by
  rw [finish]
  split
  · next hnil _ => exact absurd hnil h
  · next hnil _ => exact absurd hnil h
  · rfl

/-- An import that succeeds has read a table. -/
theorem Draft.of_finish {draft : Draft} {report : ImportReport} (h : draft.finish = .ok report) :
    draft.entities ≠ [] ∧ report.schema =
      Schema.syncForeignKeys ⟨draft.entities, draft.resolution.relationships⟩ := by
  rw [finish] at h
  split at h
  · cases h
  · cases h
  · next hnone hskipped =>
    obtain rfl := Except.ok.inj h
    refine ⟨fun hnil => ?_, rfl⟩
    cases hskip : draft.skipped with
    | nil => exact hnone hnil hskip
    | cons first rest => exact hskipped first rest hnil hskip

theorem Draft.Numbered.closed_of_finish {draft : Draft} (h : draft.Numbered)
    {report : ImportReport} (hfinish : draft.finish = .ok report) : report.schema.Closed := by
  rw [(Draft.of_finish hfinish).2]
  exact h.referential.closed_syncForeignKeys

/-- A schema that is read from a script is closed. -/
theorem closed_of_importScript {sql : String} {report : ImportReport}
    (h : importScript sql = .ok report) : report.schema.Closed := by
  rw [importScript] at h
  split at h
  · cases h
  · exact (Draft.Numbered.empty.foldl_add _).closed_of_finish h

end Ddl

end EntityRelation
