import EntityRelation.Edit.IdSupply
import EntityRelation.Proofs.Schema.ForeignKeyView

/-!
# Well-formed schemas

A schema is `Referential` when its ids are distinct and every relationship resolves, and `Named`
when its names and links keep apart what they should. Neither looks at the foreign key view, so
both survive its recomputation. `Closed` adds to the first that the view is up to date, and
`WellFormed` asks for all three.
-/

namespace EntityRelation

/-- A name as an edit stores it: trimmed and not blank. -/
structure IsName (name : String) : Prop where
  trimmed : Text.trimmed name = name
  nonempty : name.isEmpty = false

instance (name : String) : Decidable (IsName name) :=
  decidable_of_iff (Text.trimmed name = name ∧ name.isEmpty = false)
    ⟨fun h => ⟨h.1, h.2⟩, fun h => ⟨h.trimmed, h.nonempty⟩⟩

namespace Schema

/-- Ids are distinct, each kind in its place, and every relationship resolves. -/
structure Referential (s : Schema) : Prop where
  entityIds : (s.entities.map (·.id)).Nodup
  fieldIds : ∀ e ∈ s.entities, (e.fields.map (·.id)).Nodup
  relationshipIds : (s.relationships.map (·.id)).Nodup
  resolves : ∀ r ∈ s.relationships, (s.resolve? r).isSome

/-- Every entity has a field, names are stored names and differ from their siblings in more than
ASCII case, and no two relationships join the same ends. -/
structure Named (s : Schema) : Prop where
  fields : ∀ e ∈ s.entities, e.fields ≠ []
  entityNames : ∀ e ∈ s.entities, IsName e.name
  entityNames_distinct : (s.entities.map fun e => Text.foldAscii e.name).Nodup
  fieldNames : ∀ e ∈ s.entities, ∀ f ∈ e.fields, IsName f.name
  fieldNames_distinct : ∀ e ∈ s.entities, (e.fields.map fun f => Text.foldAscii f.name).Nodup
  links_distinct : (s.relationships.map fun r => (r.parent, r.child)).Nodup

/-- The foreign key view is the one that the relationships give. -/
def Synced (s : Schema) : Prop :=
  s.syncForeignKeys = s

/-- All ids resolve and the foreign key view is up to date. -/
structure Closed (s : Schema) : Prop extends Referential s where
  synced : s.Synced

/-- The schemas that edits lead to. -/
structure WellFormed (s : Schema) : Prop extends Referential s, Named s where
  synced : s.Synced

theorem WellFormed.closed {s : Schema} (h : s.WellFormed) : s.Closed :=
  ⟨h.toReferential, h.synced⟩

/-! ## The view does not matter -/

variable {s t : Schema}

theorem referential_bare : s.bare.Referential ↔ s.Referential := by
  constructor
  · rintro ⟨he, hf, hr, hres⟩
    refine ⟨by simpa [Function.comp_def] using he, fun e hmem => ?_, hr, fun r hmem => ?_⟩
    · simpa [Function.comp_def] using hf e.bare (List.mem_map_of_mem hmem)
    · have h := hres r hmem
      rw [resolve?_isSome_iff, endpoint?_bare, endpoint?_bare] at h
      simpa [resolve?_isSome_iff] using h
  · rintro ⟨he, hf, hr, hres⟩
    refine ⟨by simpa [Function.comp_def] using he, fun e hmem => ?_, hr, fun r hmem => ?_⟩
    · obtain ⟨e, he', rfl⟩ := List.mem_map.1 hmem
      simpa [Function.comp_def] using hf e he'
    · rw [resolve?_isSome_iff, endpoint?_bare, endpoint?_bare]
      simpa [resolve?_isSome_iff] using hres r hmem

theorem named_bare : s.bare.Named ↔ s.Named := by
  constructor
  · rintro ⟨hne, hn, hd, hfn, hfd, hl⟩
    refine ⟨fun e he => ?_, fun e he => hn e.bare (List.mem_map_of_mem he),
      by simpa [Function.comp_def] using hd, fun e he f hf => ?_, fun e he => ?_, hl⟩
    · simpa using hne e.bare (List.mem_map_of_mem he)
    · exact hfn e.bare (List.mem_map_of_mem he) f.clearReference (List.mem_map_of_mem hf)
    · simpa [Function.comp_def] using hfd e.bare (List.mem_map_of_mem he)
  · rintro ⟨hne, hn, hd, hfn, hfd, hl⟩
    refine ⟨fun e he => ?_, fun e he => ?_, by simpa [Function.comp_def] using hd,
      fun e he f hf => ?_, fun e he => ?_, hl⟩
    · obtain ⟨e, he', rfl⟩ := List.mem_map.1 he
      simpa using hne e he'
    · obtain ⟨e, he', rfl⟩ := List.mem_map.1 he
      exact hn e he'
    · obtain ⟨e, he', rfl⟩ := List.mem_map.1 he
      obtain ⟨f, hf', rfl⟩ := List.mem_map.1 hf
      exact hfn e he' f hf'
    · obtain ⟨e, he', rfl⟩ := List.mem_map.1 he
      simpa [Function.comp_def] using hfd e he'

theorem synced_syncForeignKeys (s : Schema) : s.syncForeignKeys.Synced :=
  s.syncForeignKeys_idem

theorem Referential.syncForeignKeys (h : s.Referential) : s.syncForeignKeys.Referential := by
  rw [← referential_bare, bare_syncForeignKeys, referential_bare]
  exact h

theorem Named.syncForeignKeys (h : s.Named) : s.syncForeignKeys.Named := by
  rw [← named_bare, bare_syncForeignKeys, named_bare]
  exact h

/-- Recomputing the view closes a schema whose ids resolve. -/
theorem Referential.closed_syncForeignKeys (h : s.Referential) : s.syncForeignKeys.Closed :=
  ⟨h.syncForeignKeys, s.synced_syncForeignKeys⟩

/-! ## Ends that exist -/

/-- Some entity and some field of it bear the ids of an end. -/
def HasEnd (s : Schema) (p : Endpoint) : Prop :=
  ∃ e ∈ s.entities, e.id = p.entity ∧ ∃ f ∈ e.fields, f.id = p.field

theorem hasEnd_of_isSome {p : Endpoint} (h : (s.endpoint? p).isSome) : s.HasEnd p := by
  obtain ⟨⟨e, f⟩, hef⟩ := Option.isSome_iff_exists.1 h
  obtain ⟨he, hf⟩ := (endpoint?_eq_some_iff p).1 hef
  exact ⟨e, mem_of_entity? he, id_of_entity? he, f, Entity.mem_of_field? hf,
    Entity.id_of_field? hf⟩

theorem endpoint?_isSome (hids : (s.entities.map (·.id)).Nodup) {p : Endpoint}
    (h : s.HasEnd p) : (s.endpoint? p).isSome := by
  obtain ⟨e, he, hid, hfield⟩ := h
  obtain ⟨f, hf⟩ := Option.isSome_iff_exists.1 (Entity.field?_isSome_iff.2 hfield)
  have hentity : s.entity? p.entity = some e := hid ▸ entity?_eq_some hids he
  rw [(endpoint?_eq_some_iff p).2 ⟨hentity, hf⟩]
  rfl

theorem resolve?_isSome (hids : (s.entities.map (·.id)).Nodup) {r : Relationship}
    (hp : s.HasEnd r.parent) (hc : s.HasEnd r.child) : (s.resolve? r).isSome :=
  (resolve?_isSome_iff r).2 ⟨endpoint?_isSome hids hp, endpoint?_isSome hids hc⟩

theorem Referential.hasEnds (h : s.Referential) {r : Relationship} (hr : r ∈ s.relationships) :
    s.HasEnd r.parent ∧ s.HasEnd r.child :=
  ((resolve?_isSome_iff r).1 (h.resolves r hr)).imp hasEnd_of_isSome hasEnd_of_isSome

end Schema

/-- No id that a supply gives out next occurs in the schema. -/
structure IdSupply.Fresh (ids : IdSupply) (s : Schema) : Prop where
  entity : ∀ e ∈ s.entities, e.id ≠ ids.entity
  field : ∀ e ∈ s.entities, ∀ f ∈ e.fields, f.id ≠ ids.field
  relationship : ∀ r ∈ s.relationships, r.id ≠ ids.relationship

end EntityRelation
