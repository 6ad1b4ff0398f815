import EntityRelation.Proofs.Ddl.ImportedOrder
import EntityRelation.Proofs.Ddl.ImportedScript

/-!
# Importing undoes exporting

A script says everything about a schema but ids, cardinalities and, unless it notes them, positions.
What it says is read back (`importScript_undoes_toScript`), and written down again it is the same
script.
-/

namespace EntityRelation

namespace Schema

open Ddl Script

variable {s : Schema}

theorem IsScriptable.entities_ne_nil (h : s.IsScriptable) : s.entities ≠ [] := by
  intro hnil
  have hnone : s.relationships = [] := by
    rw [List.eq_nil_iff_forall_not_mem]
    intro r hr
    obtain ⟨link, hlink⟩ := Option.isSome_iff_exists.1 (h.resolves r hr)
    obtain ⟨hparent, -⟩ := (resolve?_eq_some_iff r link).1 hlink
    have hmem := mem_of_entity? ((endpoint?_eq_some_iff r.parent).1 hparent).1
    rw [hnil] at hmem
    cases hmem
  have hempty := h.nonempty
  rw [isEmpty, hnil, hnone] at hempty
  cases hempty

/-- Importing undoes exporting: the script of a schema is read back as this schema with new ids,
with nothing left out and no warnings. -/
theorem importScript_toScript_eq (h : s.IsScriptable) (o : ScriptOptions) :
    importScript (s.toScript o) = .ok ⟨s.imported o, [], []⟩ := by
  have hes := orderedEntities_perm s o.order
  obtain ⟨ss, hss, himport⟩ := importScript_toScript o h.scriptable
  have hholds := holds_foldl_add h hes hss
  generalize ss.foldl Draft.add {} = draft at himport hholds
  have hdraft : draft.schema.entities = (orderedEntities s o.order).mapIdx (importedEntity o) :=
    hholds.entities
  have hresolution : draft.resolution =
      { relationships := (relationshipsOf s (orderedEntities s o.order)).mapIdx
          (importedRelationship (orderedEntities s o.order)) } :=
    foldl_add_pends h hes hdraft hholds.pendingKeys (fun r hr => mem_of_mem_relationshipsOf hr)
      (nodup_relationshipsOf h hes)
  have hne : draft.entities ≠ [] := by
    rw [hholds.entities]
    refine List.mapIdx_ne_nil_iff.2 fun hnil => h.entities_ne_nil ?_
    rw [hnil] at hes
    exact hes.symm.eq_nil
  have hsync := syncForeignKeys_imported h hes
    (t := { entities := draft.entities, relationships := draft.resolution.relationships })
    hholds.entities (by rw [hresolution])
  rw [himport, Draft.finish_eq hne, hholds.skipped, hholds.warnings, hsync, hresolution]
  rfl

/-- The script of a schema is read back without a warning and with no table left out. The schema
that is read has the tables and columns of the first one in the order of the script, with the
positions that the script notes, and the same links between columns; only ids and cardinalities are
new. Its script is the same again. -/
theorem importScript_undoes_toScript (s : Schema) (h : s.IsScriptable) (o : ScriptOptions) :
    importScript (s.toScript o) = .ok ⟨s.imported o, [], []⟩ ∧
      (s.imported o).entities.map Entity.content =
        (orderedEntities s o.order).map Entity.content ∧
      (orderedEntities s o.order).Perm s.entities ∧
      (o.includePositions = true → (s.imported o).entities.map Entity.position =
        (orderedEntities s o.order).map Entity.position) ∧
      (s.imported o).links.Perm s.links ∧
      (s.imported o).toScript o = s.toScript o := by
  refine ⟨importScript_toScript_eq h o, contents_imported o, orderedEntities_perm s o.order, ?_,
    links_imported h o, toScript_imported h o (orderedEntities_imported h o)⟩
  intro hpositions
  refine map_imported_entities o fun i e _ => ?_
  rw [numberedEntity, if_pos hpositions]

/-- Orders, whose name has to be quoted, with a price and the customer who placed them. -/
def ledger : Schema where
  entities :=
    [{ id := ⟨"e1"⟩
       name := "order"
       fields := [{ id := ⟨"f1"⟩, name := "id", dataType := "SERIAL", isPrimaryKey := true },
         { id := ⟨"f2"⟩, name := "net \"price\"", dataType := "DECIMAL(10, 2)", isNotNull := true,
           defaultValue := some "NULL" },
         { id := ⟨"f3"⟩, name := "customer", dataType := "BIGSERIAL", isForeignKey := true,
           references := some ⟨"customers", "id"⟩ }]
       position := ⟨120.5, 80.0⟩ },
     { id := ⟨"e2"⟩
       name := "customers"
       fields := [{ id := ⟨"f1"⟩, name := "id", dataType := "SERIAL", isPrimaryKey := true }]
       position := .origin }]
  relationships := [⟨⟨"r1"⟩, ⟨⟨"e2"⟩, ⟨"f1"⟩⟩, ⟨⟨"e1"⟩, ⟨"f3"⟩⟩, .oneToOne⟩]

theorem isTypeText_decimal : IsTypeText "DECIMAL(10, 2)" :=
  ⟨[⟨.word "DECIMAL", "DECIMAL", ⟨1, 1⟩, false⟩, ⟨.leftParen, "(", ⟨1, 8⟩, false⟩,
      ⟨.number, "10", ⟨1, 9⟩, false⟩, ⟨.comma, ",", ⟨1, 11⟩, false⟩,
      ⟨.number, "2", ⟨1, 13⟩, true⟩, ⟨.rightParen, ")", ⟨1, 14⟩, false⟩],
    by decide +kernel, by decide⟩

theorem isDefaultText_null : IsDefaultText "NULL" :=
  ⟨⟨.word "NULL", "NULL", ⟨1, 1⟩, false⟩, [], by decide +kernel, by decide⟩

theorem isScriptable_ledger : ledger.IsScriptable where
  entities := by decide
  fields := by decide
  nonempty := rfl
  names := by decide
  scriptable := by
    have hserial : IsColumnType "SERIAL" := Or.inl ⟨.serial, rfl⟩
    have hbig : IsColumnType "BIGSERIAL" := Or.inl ⟨.bigSerial, rfl⟩
    have hdecimal : IsColumnType "DECIMAL(10, 2)" := Or.inr ⟨isTypeText_decimal, by decide⟩
    have hnone : ∀ value ∈ (none : Option String), IsDefaultText value := by simp
    have hnull : ∀ value ∈ some "NULL", IsDefaultText value := by simpa using isDefaultText_null
    refine List.forall_mem_cons.2 ⟨⟨by simp, ?_, by decide, by decide⟩,
      List.forall_mem_singleton.2 ⟨by simp, ?_, by decide, by decide⟩⟩
    · refine List.forall_mem_cons.2 ⟨⟨by decide, hserial, hnone⟩, ?_⟩
      refine List.forall_mem_cons.2 ⟨⟨by decide, hdecimal, hnull⟩, ?_⟩
      exact List.forall_mem_singleton.2 ⟨by decide, hbig, hnone⟩
    · exact List.forall_mem_singleton.2 ⟨by decide, hserial, hnone⟩
  fieldNames := by decide
  resolves := by decide
  ends := by decide
  synced := rfl

/-- The script looks for parents first, so the orders come last. -/
theorem importScript_undoes_toScript_ledger :
    ledger.IsScriptable ∧
      importScript (ledger.toScript ⟨.mySql, true, true, .dependencies⟩) =
        .ok ⟨ledger.imported ⟨.mySql, true, true, .dependencies⟩, [], []⟩ ∧
      (ledger.imported ⟨.mySql, true, true, .dependencies⟩).entities.map Entity.content =
        [⟨"customers", [{ id := ⟨""⟩, name := "id", dataType := "SERIAL", isPrimaryKey := true }]⟩,
          ⟨"order", [{ id := ⟨""⟩, name := "id", dataType := "SERIAL", isPrimaryKey := true },
            { id := ⟨""⟩, name := "net \"price\"", dataType := "DECIMAL(10, 2)",
              isNotNull := true, defaultValue := some "NULL" },
            { id := ⟨""⟩, name := "customer", dataType := "BIGSERIAL", isForeignKey := true,
              references := some ⟨"customers", "id"⟩ }]⟩] := by
  have h := importScript_undoes_toScript ledger isScriptable_ledger
    ⟨.mySql, true, true, .dependencies⟩
  exact ⟨isScriptable_ledger, h.1, h.2.1.trans (by decide)⟩

end Schema

end EntityRelation
