import EntityRelation.Proofs.Ddl.ImportedView
import EntityRelation.Proofs.Script.Contents

/-!
# The script of what is imported

An imported schema has the script that it was read from. A script says nothing about ids, and the
imported tables stand in the order of the script already, so an order that looks for parents first
leaves them as they are.
-/

namespace EntityRelation

/-- The field without its id. -/
def Field.withoutId (f : Field) : Field :=
  { f with id := ⟨""⟩ }

/-- What an entity says apart from its ids and its position. -/
def Entity.content (e : Entity) : String × List Field :=
  (e.name, e.fields.map Field.withoutId)

namespace Schema

open Ddl Script

/-- The columns that a relationship runs from and to, by their names. -/
def linkNames? (s : Schema) (r : Relationship) : Option (ColumnName × ColumnName) :=
  (s.resolve? r).map fun link =>
    (⟨link.parent.name, link.parentField.name⟩, ⟨link.child.name, link.childField.name⟩)

/-- The columns that the relationships run from and to, by their names. -/
def links (s : Schema) : List (ColumnName × ColumnName) :=
  s.relationships.filterMap s.linkNames?

/-! ## The same but for ids -/

theorem map_filter_of_withoutId {β : Type} {fs gs : List Field}
    (h : fs.map Field.withoutId = gs.map Field.withoutId) {p : Field → Bool} {g : Field → β}
    (hp : ∀ f, p f.withoutId = p f) (hg : ∀ f, g f.withoutId = g f) :
    (fs.filter p).map g = (gs.filter p).map g := by
  have hboth : ∀ fs : List Field,
      ((fs.map Field.withoutId).filter p).map g = (fs.filter p).map g := by
    intro fs
    rw [List.filter_map, List.map_map]
    have hp : p ∘ Field.withoutId = p := funext hp
    have hg : g ∘ Field.withoutId = g := funext hg
    rw [hp, hg]
  rw [← hboth, h, hboth]

theorem map_of_withoutId {β : Type} {fs gs : List Field}
    (h : fs.map Field.withoutId = gs.map Field.withoutId) {g : Field → β}
    (hg : ∀ f, g f.withoutId = g f) : fs.map g = gs.map g := by
  have hall := map_filter_of_withoutId h (p := fun _ => true) (fun _ => rfl) hg
  simpa using hall

theorem content_numberedEntity (o : ScriptOptions) (i : Nat) (e : Entity) :
    (numberedEntity o i e).content = e.content := by
  have hfields : (numberedEntity o i e).fields.map Field.withoutId = e.fields.map Field.withoutId := by
    rw [numberedEntity, map_mapIdx]
    exact mapIdx_const Field.withoutId e.fields
  rw [Entity.content, Entity.content, hfields]
  rfl

/-- The columns of a table do not depend on ids. -/
theorem columns_of_content {e e' : Entity} (h : e'.content = e.content) (d : Dialect) :
    e'.fields.map (ColumnDefinition.ofField d e'.primaryKeys.length) =
        e.fields.map (ColumnDefinition.ofField d e.primaryKeys.length) ∧
      e'.primaryKeys.map Field.name = e.primaryKeys.map Field.name := by
  have hfields := (Prod.mk.inj h).2
  have hkeys : e'.primaryKeys.map Field.name = e.primaryKeys.map Field.name :=
    map_filter_of_withoutId hfields (fun _ => rfl) fun _ => rfl
  have hlength : e'.primaryKeys.length = e.primaryKeys.length := by
    simpa using congrArg List.length hkeys
  rw [hlength]
  exact ⟨map_of_withoutId hfields fun _ => rfl, hkeys⟩

/-- Where the view is up to date, an index is written for every foreign key of the view. -/
theorem isIndexed_eq {s : Schema} (hs : s.DistinctIds) (hsynced : s.Synced) {e : Entity}
    (he : e ∈ s.entities) {f : Field} (hf : f ∈ e.fields) :
    IndexDefinition.isIndexed s e f = f.isForeignKey := by
  rw [Script.isIndexed_eq_or_view, ← hsynced.isForeignKey_eq hs he hf, Bool.or_self]

theorem indexes_of_content {s t : Schema} (hs : s.DistinctIds) (ht : t.DistinctIds)
    (hsynced : s.Synced) (htsynced : t.Synced) {e e' : Entity} (he : e ∈ s.entities)
    (he' : e' ∈ t.entities) (h : e'.content = e.content) :
    IndexDefinition.ofEntity t e' = IndexDefinition.ofEntity s e := by
  have hfields := (Prod.mk.inj h).2
  have hname : e'.name = e.name := (Prod.mk.inj h).1
  rw [IndexDefinition.ofEntity, IndexDefinition.ofEntity, hname,
    List.filter_congr fun f hf => isIndexed_eq hs hsynced he hf,
    List.filter_congr fun f hf => isIndexed_eq ht htsynced he' hf]
  exact map_filter_of_withoutId hfields (fun _ => rfl) fun _ => rfl

/-! ## The imported schema -/

theorem linkNames?_bare (s : Schema) (r : Relationship) : s.bare.linkNames? r = s.linkNames? r := by
  simp only [linkNames?, resolve?, endpoint?_bare]
  cases s.endpoint? r.parent with
  | none => rfl
  | some p =>
      cases s.endpoint? r.child with
      | none => rfl
      | some c => rfl

theorem foreignKeys_eq (s : Schema) (rs : List Relationship) :
    (rs.filterMap s.resolve?).map ForeignKeyDefinition.ofLink =
      rs.filterMap fun r => (s.linkNames? r).map fun names =>
        ⟨names.2.field, names.1.table, names.1.field⟩ := by
  rw [List.map_filterMap]
  refine List.filterMap_congr fun r _ => ?_
  rw [linkNames?, Option.map_map]
  rfl

theorem filterMap_mapIdx {α β γ : Type} {as : List α} {f : Nat → α → β} {g : β → Option γ}
    {g' : α → Option γ} (h : ∀ i, ∀ a ∈ as, g (f i a) = g' a) :
    (as.mapIdx f).filterMap g = as.filterMap g' := by
  have hmap : (as.mapIdx f).map g = as.map g' := by
    rw [map_mapIdx, ← mapIdx_const, List.mapIdx_eq_mapIdx_iff]
    exact fun i hi => h i _ (List.getElem_mem hi)
  have hid := congrArg (List.filterMap id) hmap
  rwa [List.filterMap_map, List.filterMap_map] at hid

section

variable {s : Schema} (h : s.IsScriptable) (o : ScriptOptions)

theorem bare_imported_entities (s : Schema) : (s.imported o).bare.entities =
    (orderedEntities s o.order).mapIdx (importedEntity o) := by
  rw [bare_entities, imported, map_mapIdx, List.mapIdx_eq_mapIdx_iff]
  intro i _
  rw [Entity.bare, numberedEntity]
  dsimp only
  rw [map_mapIdx]
  rfl

include h

theorem linkNames?_imported {r : Relationship} (hr : r ∈ s.relationships) (k : Nat) :
    (s.imported o).linkNames? (importedRelationship (orderedEntities s o.order) k r) =
      s.linkNames? r := by
  obtain ⟨link, hlink⟩ := Option.isSome_iff_exists.1 (h.resolves r hr)
  obtain ⟨ip, jp, ic, jc, himported⟩ := resolve?_imported h (orderedEntities_perm s o.order)
    (bare_imported_entities o s) hlink k
  rw [← linkNames?_bare, linkNames?, linkNames?, himported, hlink]
  rfl

/-- The relationships join the same columns as before. -/
theorem links_imported : (s.imported o).links.Perm s.links := by
  have hsame : (s.imported o).links =
      (relationshipsOf s (orderedEntities s o.order)).filterMap s.linkNames? :=
    filterMap_mapIdx fun k r hr => linkNames?_imported h o (mem_of_mem_relationshipsOf hr) k
  rw [hsame]
  exact (relationshipsOf_perm h (orderedEntities_perm s o.order)).filterMap _

/-- The foreign keys of a table stand in the same order as before. -/
theorem foreignKeys_imported {i : Nat} {e : Entity}
    (hi : (orderedEntities s o.order)[i]? = some e) :
    (((s.imported o).incoming (entityIdAt i)).filterMap (s.imported o).resolve?).map
        ForeignKeyDefinition.ofLink =
      ((s.incoming e.id).filterMap s.resolve?).map ForeignKeyDefinition.ofLink := by
  have hes := orderedEntities_perm s o.order
  have hids := entityIds_nodup h.toDistinctIds hes
  rw [foreignKeys_eq, foreignKeys_eq, ← filter_relationshipsOf hids (List.mem_of_getElem? hi),
    incoming, List.filterMap_filter, List.filterMap_filter]
  refine filterMap_mapIdx fun k r hr => ?_
  have hmem := mem_of_mem_relationshipsOf hr
  obtain ⟨link, hlink⟩ := Option.isSome_iff_exists.1 (h.resolves r hmem)
  obtain ⟨-, hchild⟩ := (resolve?_eq_some_iff r link).1 hlink
  obtain ⟨ic, jc, hchild⟩ := exists_isAt hes hchild
  have hentity : (importedEnd (orderedEntities s o.order) r.child).entity = entityIdAt ic := by
    rw [importedEnd_eq h.toDistinctIds hes hchild]
  have hiff : ((importedRelationship (orderedEntities s o.order) k r).child.entity ==
      entityIdAt i) = (r.child.entity == e.id) := by
    rw [Bool.eq_iff_iff, beq_iff_eq, beq_iff_eq, importedRelationship, hentity]
    constructor
    · intro heq
      obtain rfl := entityIdAt_injective heq
      rw [← hchild.entity_id, Option.some.inj (hi.symm.trans hchild.entity)]
    · intro heq
      have hindex := findIdx_key_eq hids hi
      have hindex' := findIdx_key_eq hids hchild.entity
      rw [hchild.entity_id, heq, hindex] at hindex'
      rw [hindex']
  rw [hiff, linkNames?_imported h o hmem k]

theorem synced_imported : (s.imported o).Synced := by
  have hsync := syncForeignKeys_imported h (orderedEntities_perm s o.order)
    (bare_imported_entities o s) rfl
  rw [syncForeignKeys_bare] at hsync
  exact hsync

omit h

theorem distinctIds_imported : (s.imported o).DistinctIds := by
  constructor
  · rw [imported, map_mapIdx]
    exact nodup_mapIdx_index entityIdAt_injective _
  · intro e' he'
    obtain ⟨i, _, rfl⟩ := List.mem_mapIdx.1 he'
    rw [numberedEntity, map_mapIdx]
    exact nodup_mapIdx_index (fieldIdAt_injective i) _

theorem map_imported_entities {β : Type} {g g' : Entity → β}
    (hg : ∀ i e, (orderedEntities s o.order)[i]? = some e → g (numberedEntity o i e) = g' e) :
    (s.imported o).entities.map g = (orderedEntities s o.order).map g' := by
  rw [imported, map_mapIdx, ← mapIdx_const, List.mapIdx_eq_mapIdx_iff]
  exact fun i hi => hg i _ (List.getElem?_eq_getElem hi)

/-- The tables and their columns are those of the schema. -/
theorem contents_imported : (s.imported o).entities.map Entity.content =
    (orderedEntities s o.order).map Entity.content :=
  map_imported_entities o fun i e _ => content_numberedEntity o i e

include h

theorem table_imported {i : Nat} {e : Entity} (hi : (orderedEntities s o.order)[i]? = some e)
    (order : TableOrder) :
    TableDefinition.ofEntity (s.imported o) { o with order } (numberedEntity o i e) =
      TableDefinition.ofEntity s o e := by
  obtain ⟨hcolumns, hkeys⟩ := columns_of_content (content_numberedEntity o i e) o.dialect
  have hlength := congrArg List.length hkeys
  rw [List.length_map, List.length_map] at hlength
  rw [TableDefinition.ofEntity, TableDefinition.ofEntity, TableDefinition.mk.injEq]
  refine ⟨?_, rfl, hcolumns, ?_, foreignKeys_imported h o hi⟩
  · cases hpositions : o.includePositions with
    | false => rfl
    | true => simp only [numberedEntity, hpositions, if_true]
  · rw [hkeys, hlength]

theorem indexes_imported {i : Nat} {e : Entity} (hi : (orderedEntities s o.order)[i]? = some e) :
    IndexDefinition.ofEntity (s.imported o) (numberedEntity o i e) =
      IndexDefinition.ofEntity s e := by
  have he := (orderedEntities_perm s o.order).subset (List.mem_of_getElem? hi)
  have he' : numberedEntity o i e ∈ (s.imported o).entities :=
    mem_mapIdx_of_getElem? (numberedEntity o) hi
  exact indexes_of_content h.toDistinctIds (distinctIds_imported o) h.synced (synced_imported h o)
    he he' (content_numberedEntity o i e)

/-- Where the tables stay in their order, the script is the one that was read. -/
theorem toScript_imported {order : TableOrder}
    (horder : orderedEntities (s.imported o) order = (s.imported o).entities) :
    (s.imported o).toScript { o with order } = s.toScript o := by
  have hnames : (s.imported o).entities.map Entity.name =
      (orderedEntities s o.order).map Entity.name := map_imported_entities o fun _ _ _ => rfl
  have htables : (s.imported o).entities.map
      (TableDefinition.ofEntity (s.imported o) { o with order }) =
        (orderedEntities s o.order).map (TableDefinition.ofEntity s o) :=
    map_imported_entities o fun i e hi => table_imported h o hi order
  have hindexes : (s.imported o).entities.map (IndexDefinition.ofEntity (s.imported o)) =
      (orderedEntities s o.order).map (IndexDefinition.ofEntity s) :=
    map_imported_entities o fun i e hi => indexes_imported h o hi
  have hscript : ofSchema (s.imported o) { o with order } = ofSchema s o := by
    rw [ofSchema, ofSchema]
    dsimp only
    rw [horder, htables, hindexes, List.map_reverse, List.map_reverse, hnames]
  rw [toScript, toScript, hscript]

end

end Schema

end EntityRelation
