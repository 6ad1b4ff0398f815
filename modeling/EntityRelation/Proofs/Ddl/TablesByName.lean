import EntityRelation.Proofs.Ddl.LinksByName
import EntityRelation.Proofs.Ddl.ScriptTables

/-!
# An imported schema by name

The relationships of an imported schema come from links between the columns of its draft
(`Draft.LinkedBy`). So the schema is told by its tables apart from ids and positions: every column
with what it references (`Reading.Apart.contents_linked`), every link by name, and every warning
about a foreign key. A column references the column that the first foreign key of its table says,
since the ids of columns and tables tell them apart just as their names do.
-/

namespace EntityRelation

/-- Where the keys of groups are distinct and a property holds in one group only, the first element
with the property is the first one of that group. -/
theorem find?_flatMap_key {α β κ : Type} {key : α → κ} {as : List α} {g : α → List β}
    {p : β → Bool} (h : (as.map key).Nodup) {a : α} (ha : a ∈ as)
    (hp : ∀ b ∈ as, ∀ c ∈ g b, p c → key b = key a) :
    (as.flatMap g).find? p = (g a).find? p := by
  induction as with
  | nil => cases ha
  | cons b rest ih =>
      rw [List.map_cons, List.nodup_cons] at h
      rw [List.flatMap_cons, List.find?_append]
      rcases List.mem_cons.1 ha with rfl | hrest
      · have hnone : (rest.flatMap g).find? p = none := by
          rw [List.find?_eq_none]
          intro c hc hpc
          obtain ⟨b, hb, hc⟩ := List.mem_flatMap.1 hc
          exact h.1 (hp b (List.mem_cons_of_mem a hb) c hc hpc ▸ List.mem_map_of_mem hb)
        rw [hnone, Option.or_none]
      · have hnone : (g b).find? p = none := by
          rw [List.find?_eq_none]
          intro c hc hpc
          exact h.1 (hp b List.mem_cons_self c hc hpc ▸ List.mem_map_of_mem hrest)
        rw [hnone, Option.none_or]
        exact ih h.2 hrest fun b hb => hp b (List.mem_cons_of_mem _ hb)

namespace Schema

/-- Where ids are distinct, the ends of a link lead back to it. -/
theorem DistinctIds.resolve?_eq_some {s : Schema} (h : s.DistinctIds) {r : Relationship}
    {link : Link} (hlink : link.InSchema s) (hends : r.ends = link.ends) :
    s.resolve? r = some link := by
  obtain ⟨hparent, hchild⟩ := Prod.mk.inj hends
  rw [resolve?_eq_some_iff, hparent, hchild, endpoint?_eq_some_iff, endpoint?_eq_some_iff]
  exact ⟨⟨entity?_eq_some h.entities hlink.parent,
      Entity.field?_eq_some (h.fields _ hlink.parent) hlink.parentField⟩,
    entity?_eq_some h.entities hlink.child,
    Entity.field?_eq_some (h.fields _ hlink.child) hlink.childField⟩

/-- The foreign key view has no part in the links. -/
theorem links_syncForeignKeys (s : Schema) : s.syncForeignKeys.links = s.links := by
  rw [links, links, relationships_syncForeignKeys]
  refine List.filterMap_congr fun rel _ => ?_
  rw [← linkNames?_bare, bare_syncForeignKeys, linkNames?_bare]

end Schema

namespace Ddl

/-! ## The schema of links -/

namespace Draft

/-- The schema of a draft before its foreign key view is written. -/
def linked (draft : Draft) : Schema where
  entities := draft.entities
  relationships := draft.resolution.relationships

/-- The relationships of a draft come from links between its columns. -/
structure LinkedBy (draft : Draft) (links : List Link) : Prop where
  ids : draft.schema.DistinctIds
  inSchema : ∀ link ∈ links, link.InSchema draft.schema
  reads : ∃ warnings, draft.resolution.Reads links warnings

namespace LinkedBy

variable {draft : Draft} {links : List Link}

theorem resolve?_linked (h : draft.LinkedBy links) {rel : Relationship} {link : Link}
    (hlink : link ∈ links) (hends : rel.ends = link.ends) :
    draft.linked.resolve? rel = some link :=
  h.ids.resolve?_eq_some (h.inSchema link hlink) hends

/-- Every relationship comes from a link. -/
theorem exists_link (h : draft.LinkedBy links) {rel : Relationship}
    (hrel : rel ∈ draft.linked.relationships) : ∃ link ∈ links, rel.ends = link.ends := by
  obtain ⟨_, hreads⟩ := h.reads
  obtain ⟨link, hlink, hends⟩ :=
    List.mem_map.1 ((hreads.ends rel.ends).1 (List.mem_map_of_mem hrel))
  exact ⟨link, hlink, hends.symm⟩

theorem mem_links_iff (h : draft.LinkedBy links) (names : ColumnName × ColumnName) :
    names ∈ draft.linked.syncForeignKeys.links ↔ names ∈ links.map Link.names := by
  obtain ⟨_, hreads⟩ := h.reads
  rw [Schema.links_syncForeignKeys, Schema.links, List.mem_filterMap, List.mem_map]
  constructor
  · rintro ⟨rel, hrel, hnames⟩
    obtain ⟨link, hlink, hends⟩ := h.exists_link hrel
    rw [Schema.linkNames?, h.resolve?_linked hlink hends] at hnames
    exact ⟨link, hlink, Option.some.inj hnames⟩
  · rintro ⟨link, hlink, rfl⟩
    obtain ⟨rel, hrel, hends⟩ :=
      List.mem_map.1 ((hreads.ends link.ends).2 (List.mem_map_of_mem hlink))
    refine ⟨rel, hrel, ?_⟩
    rw [Schema.linkNames?, h.resolve?_linked hlink hends]
    rfl

/-- What the foreign key view says of an end is what the first link says that has it as its child
end. -/
theorem view_linked (h : draft.LinkedBy links) (p : Endpoint) :
    draft.linked.view p = (links.find? (·.ends.2 == p)).map (·.names.1) := by
  have hresolves : ∀ rel ∈ draft.linked.relationships, (draft.linked.resolve? rel).isSome := by
    intro rel hrel
    obtain ⟨link, hlink, hends⟩ := h.exists_link hrel
    rw [h.resolve?_linked hlink hends]
    rfl
  obtain ⟨_, hreads⟩ := h.reads
  rw [Schema.view_eq (Schema.references_eq hresolves)]
  have hfirst := hreads.first p
  change (draft.linked.relationships.find? (·.child == p)).map Relationship.ends = _ at hfirst
  cases hlink : links.find? (·.ends.2 == p) with
  | none =>
      rw [hlink, Option.map_none, Option.map_eq_none_iff] at hfirst
      rw [hfirst]
      rfl
  | some link =>
      rw [hlink, Option.map_some, Option.map_eq_some_iff] at hfirst
      obtain ⟨rel, hrel, hends⟩ := hfirst
      rw [hrel, Option.map_some, Schema.column,
        h.resolve?_linked (List.mem_of_find?_eq_some hlink) hends]
      rfl

end LinkedBy

end Draft

namespace Reading

/-- Tables that ids and names tell apart, with foreign keys of their own. -/
structure Apart (r : Reading) : Prop where
  ids : r.draft.schema.DistinctIds
  names : (r.tables.map fun t => Text.foldAscii t.entity.name).Nodup
  fieldNames : ∀ t ∈ r.tables, (t.entity.fields.map fun f => Text.foldAscii f.name).Nodup
  children : ∀ t ∈ r.tables, ∀ key ∈ t.pendingKeys, key.child = t.entity.id

/-! ## The schema of tables -/

/-- The schema of the tables before its foreign key view is written. -/
def linked (r : Reading) : Schema where
  entities := r.draft.entities
  relationships := r.draft.resolution.relationships

/-- All links of the tables. -/
def links (r : Reading) : List Link :=
  r.tables.flatMap (TableDraft.links r.draft.schema)

variable {r : Reading}

theorem mem_entities {t : TableDraft} (ht : t ∈ r.tables) : t.entity ∈ r.draft.schema.entities :=
  List.mem_map_of_mem ht

theorem Apart.reads (h : r.Apart) : r.draft.resolution.Reads r.links
    (r.tables.flatMap (TableDraft.complaints r.draft.schema)) := by
  have hempty : Resolution.Reads {} [] [] := ⟨fun _ => Iff.rfl, fun _ => rfl, rfl⟩
  have hchild : ∀ t ∈ r.tables, ∀ key ∈ t.pendingKeys,
      r.draft.schema.entity? key.child = some t.entity := by
    intro t ht key hkey
    rw [h.children t ht key hkey]
    exact Schema.entity?_eq_some h.ids.entities (mem_entities ht)
  exact hempty.foldl_tables hchild

namespace Apart

theorem linkedBy (h : r.Apart) : r.draft.LinkedBy r.links := by
  refine ⟨h.ids, fun link hlink => ?_, _, h.reads⟩
  obtain ⟨t, ht, hlink⟩ := List.mem_flatMap.1 hlink
  exact (TableDraft.mem_links (mem_entities ht) hlink).2

theorem mem_links_iff (h : r.Apart) (names : ColumnName × ColumnName) :
    names ∈ r.linked.syncForeignKeys.links ↔ names ∈ r.links.map Link.names :=
  h.linkedBy.mem_links_iff names

/-- Among the links of a table, ids tell its columns apart just as names do. -/
theorem view_field (h : r.Apart) {t : TableDraft} (ht : t ∈ r.tables) {f : Field}
    (hf : f ∈ t.entity.fields) :
    r.linked.view ⟨t.entity.id, f.id⟩ =
      ((t.links r.draft.schema).find? (·.names.2.field == f.name)).map (·.names.1) := by
  have hids : (r.tables.map fun t => t.entity.id).Nodup := by
    have hentities := h.ids.entities
    rw [Draft.schema, draft, List.map_map] at hentities
    exact hentities
  -- A link has the id of its own table at its child end, so other tables have nothing to say.
  have hown : r.links.find? (·.ends.2 == ⟨t.entity.id, f.id⟩) =
      (t.links r.draft.schema).find? (·.ends.2 == ⟨t.entity.id, f.id⟩) := by
    refine find?_flatMap_key hids ht fun t' ht' link hlink hend => ?_
    rw [← (TableDraft.mem_links (mem_entities ht') hlink).1]
    exact congrArg Endpoint.entity (beq_iff_eq.1 hend)
  have hview : r.linked.view ⟨t.entity.id, f.id⟩ = _ := h.linkedBy.view_linked _
  rw [hview, hown]
  congr 1
  refine List.find?_congr fun link hlink => ?_
  obtain ⟨hchild, hin⟩ := TableDraft.mem_links (mem_entities ht) hlink
  have hfield : link.childField ∈ t.entity.fields := hchild ▸ hin.childField
  rw [Bool.eq_iff_iff, beq_iff_eq, beq_iff_eq, Link.ends, Link.names]
  constructor
  · intro hend
    have hid : link.childField.id = f.id := congrArg Endpoint.field hend
    exact congrArg Field.name
      (List.inj_on_of_nodup_map (h.ids.fields _ (mem_entities ht)) hfield hf hid)
  · intro hname
    have hsame := List.inj_on_of_nodup_map (h.fieldNames t ht) hfield hf
      (congrArg Text.foldAscii hname)
    rw [hchild, hsame]

theorem contents_linked (h : r.Apart) :
    r.linked.syncForeignKeys.entities.map Entity.content =
      r.tables.map (TableDraft.contentIn r.draft.schema) := by
  have hids : r.linked.DistinctIds := ⟨h.ids.entities, h.ids.fields⟩
  have hentities : r.linked.entities = r.tables.map TableDraft.entity := rfl
  rw [Schema.syncForeignKeys_eq hids, Schema.mapEnds, hentities, List.map_map, List.map_map]
  refine List.map_congr_left fun t ht => ?_
  rw [Function.comp_apply, Function.comp_apply, Entity.content, TableDraft.contentIn, List.map_map]
  congr 1
  refine List.map_congr_left fun f hf => ?_
  rw [Function.comp_apply, ← h.view_field ht hf]

end Apart

end Reading

end Ddl

end EntityRelation
