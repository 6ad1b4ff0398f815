import EntityRelation.Proofs.Ddl.GainedLinks
import EntityRelation.Proofs.Ddl.ImportedTables

/-!
# The links of one column

Names tell the columns of an import apart, so the links of a column are those with its name at their
child end (`Schema.sources`). A column that has gained foreign keys to a target references the
target then, once, and nothing else, as long as it had no link to another column before
(`Draft.Gains.sources_eq`).
-/

namespace EntityRelation

theorem eq_toList_of_nodup {α : Type} {as : List α} {o : Option α} (h : as.Nodup)
    (hmem : ∀ a, a ∈ as ↔ o = some a) : as = o.toList := by
  cases o with
  | none => exact List.eq_nil_iff_forall_not_mem.2 fun a ha => nomatch (hmem a).1 ha
  | some b =>
      refine List.perm_singleton.1 ((List.perm_ext_iff_of_nodup h (List.nodup_singleton b)).2 ?_)
      intro a
      rw [hmem, List.mem_singleton, Option.some.injEq, eq_comm]

/-! ## Names apart from the foreign key view -/

theorem Entity.fieldNamed?_bare (e : Entity) (name : String) :
    e.bare.fieldNamed? name = (e.fieldNamed? name).map Field.clearReference := by
  rw [fieldNamed?, bare_fields, List.find?_map]
  rfl

namespace Schema

/-- The columns that the foreign keys of a column reference. -/
def sources (s : Schema) (table column : String) : List ColumnName :=
  (s.links.filter fun names => Text.sameName names.2.table table &&
    Text.sameName names.2.field column).map Prod.fst

variable {s : Schema} {table column : String} {p : ColumnName}

theorem mem_sources_iff : p ∈ s.sources table column ↔ ∃ child, (p, child) ∈ s.links ∧
    Text.sameName child.table table = true ∧ Text.sameName child.field column = true := by
  simp only [sources, List.mem_map, List.mem_filter, Bool.and_eq_true]
  constructor
  · rintro ⟨⟨p, child⟩, ⟨hlink, hsame⟩, rfl⟩
    exact ⟨child, hlink, hsame⟩
  · rintro ⟨child, hlink, hsame⟩
    exact ⟨(p, child), ⟨hlink, hsame⟩, rfl⟩

theorem entityNamed?_bare (s : Schema) (name : String) :
    s.bare.entityNamed? name = (s.entityNamed? name).map Entity.bare := by
  rw [entityNamed?, bare_entities, List.find?_map]
  rfl

end Schema

namespace Ddl

theorem ForeignTarget.column?_bare (target : ForeignTarget) (s : Schema) :
    target.column? s.bare = target.column? s := by
  have hfield : ∀ parent : Entity,
      target.fieldIn? parent.bare = (target.fieldIn? parent).map Field.clearReference := by
    intro parent
    rw [fieldIn?, fieldIn?]
    cases target.column with
    | none =>
        rw [Entity.primaryKeys, Entity.bare_fields, List.filter_map, List.head?_map]
        rfl
    | some column => exact parent.fieldNamed?_bare column
  rw [column?, column?, field?, field?, s.entityNamed?_bare]
  cases s.entityNamed? target.table with
  | none => rfl
  | some parent =>
      simp only [Option.map_some, Option.bind_some, hfield]
      cases target.fieldIn? parent with
      | none => rfl
      | some field => rfl

theorem ForeignTarget.column?_syncForeignKeys (target : ForeignTarget) (s : Schema) :
    target.column? s.syncForeignKeys = target.column? s := by
  rw [← target.column?_bare, Schema.bare_syncForeignKeys, target.column?_bare]

/-! ## The column that gains keys -/

namespace Draft

variable {d d' : Draft} {t c : String} {e : Entity} {f : Field} {target : ForeignTarget}

/-- A column of a draft whose tables names tell apart. -/
structure HasColumn (d : Draft) (t c : String) (e : Entity) (f : Field) : Prop
    extends d.Tabled fun _ => True where
  numbered : d.Numbered
  entity : d.schema.entityNamed? t = some e
  field : e.fieldNamed? c = some f

namespace HasColumn

theorem mem_entities (h : d.HasColumn t c e f) : e ∈ d.schema.entities :=
  List.mem_of_find?_eq_some h.entity

theorem mem_fields (h : d.HasColumn t c e f) : f ∈ e.fields :=
  List.mem_of_find?_eq_some h.field

theorem entity?_eq (h : d.HasColumn t c e f) : d.schema.entity? e.id = some e :=
  Schema.entity?_eq_some h.numbered.entityIds h.mem_entities

/-- Names tell columns apart. -/
theorem eq_of_names (h : d.HasColumn t c e f) {e₁ e₂ : Entity} {f₁ f₂ : Field}
    (he₁ : e₁ ∈ d.schema.entities) (he₂ : e₂ ∈ d.schema.entities) (hf₁ : f₁ ∈ e₁.fields)
    (hf₂ : f₂ ∈ e₂.fields) (he : Text.foldAscii e₁.name = Text.foldAscii e₂.name)
    (hf : Text.foldAscii f₁.name = Text.foldAscii f₂.name) : e₁ = e₂ ∧ f₁ = f₂ := by
  obtain rfl := List.inj_on_of_nodup_map h.entityNames he₁ he₂ he
  exact ⟨rfl, List.inj_on_of_nodup_map (h.fieldNames e₁ he₁) hf₁ hf₂ hf⟩

theorem names_sameName (h : d.HasColumn t c e f) :
    Text.sameName e.name t = true ∧ Text.sameName f.name c = true := by
  have hentity := List.find?_some h.entity
  have hfield := List.find?_some h.field
  exact ⟨hentity, hfield⟩

/-- A link that has the name of the column at its child end has the column there. -/
theorem child_eq (h : d.HasColumn t c e f) {l : Link} (hl : l.InSchema d.schema)
    (htable : Text.sameName l.child.name t = true)
    (hcolumn : Text.sameName l.childField.name c = true) : l.child = e ∧ l.childField = f := by
  obtain ⟨hentity, hfield⟩ := h.names_sameName
  simp only [Text.sameName, beq_iff_eq] at htable hcolumn hentity hfield
  exact h.eq_of_names hl.child h.mem_entities hl.childField h.mem_fields
    (htable.trans hentity.symm) (hcolumn.trans hfield.symm)

end HasColumn

end Draft

namespace ForeignTarget

variable {s : Schema} {e : Entity} {f : Field} {target : ForeignTarget}

theorem column?_eq (target : ForeignTarget) (s : Schema) (e : Entity) (f : Field) :
    target.column? s = (target.link? s e f).map (·.names.1) := by
  rw [column?, link?, Option.map_map]
  rfl

theorem inSchema_of_link? {l : Link} (he : e ∈ s.entities) (hf : f ∈ e.fields)
    (h : target.link? s e f = some l) : l.InSchema s ∧ l.child = e ∧ l.childField = f := by
  obtain ⟨⟨parent, parentField⟩, hfield, rfl⟩ := Option.map_eq_some_iff.1 h
  obtain ⟨parent', hparent, hfield⟩ := Option.bind_eq_some_iff.1 hfield
  obtain ⟨parentField', hparentField, heq⟩ := Option.map_eq_some_iff.1 hfield
  obtain ⟨rfl, rfl⟩ := Prod.mk.inj heq
  refine ⟨⟨List.mem_of_find?_eq_some hparent, ?_, he, hf⟩, rfl, rfl⟩
  rw [fieldIn?] at hparentField
  split at hparentField
  · exact List.mem_of_find?_eq_some hparentField
  · exact List.mem_of_mem_filter (List.mem_of_head? hparentField)

end ForeignTarget

namespace Draft

variable {d d' : Draft} {t c : String} {e : Entity} {f : Field} {target : ForeignTarget}

open PendingKey

/-- All links of a column are links to one target. -/
def OnlyTo (d : Draft) (t c : String) (target : ForeignTarget) : Prop :=
  ∀ p ∈ d.linked.syncForeignKeys.sources t c, target.column? d.schema = some p

/-- A link of the column is the link to the target. -/
theorem HasColumn.link?_eq_some (h : d.HasColumn t c e f) (honly : d.OnlyTo t c target) {l : Link}
    (hl : l ∈ d.pendingKeys.filterMap (link? d.schema)) (hchild : l.child = e)
    (hfield : l.childField = f) : target.link? d.schema e f = some l := by
  have hlinked := h.numbered.linkedBy
  have hnames : (l.names.1, l.names.2) ∈ d.linked.syncForeignKeys.links :=
    (hlinked.mem_links_iff l.names).2 (List.mem_map_of_mem hl)
  have hsource := honly l.names.1 (Schema.mem_sources_iff.2 ⟨l.names.2, hnames, by
    rw [Link.names, hchild, hfield]
    exact h.names_sameName⟩)
  rw [target.column?_eq d.schema e f, Option.map_eq_some_iff] at hsource
  obtain ⟨l', hl', hparent⟩ := hsource
  obtain ⟨hin, hchild', hfield'⟩ :=
    ForeignTarget.inSchema_of_link? h.mem_entities h.mem_fields hl'
  obtain ⟨htable, hcolumn⟩ := ColumnName.mk.inj hparent
  obtain ⟨hentity, hparentField⟩ := h.eq_of_names hin.parent (hlinked.inSchema l hl).parent
    hin.parentField (hlinked.inSchema l hl).parentField (congrArg _ htable) (congrArg _ hcolumn)
  have hsame : l' = l := by
    cases l
    cases l'
    rw [Link.mk.injEq]
    exact ⟨hentity, hparentField, hchild'.trans hchild.symm, hfield'.trans hfield.symm⟩
  rw [hl', hsame]

/-- The relationships of a draft after keys of a column have been gained. -/
theorem Gains.linkedBy_isTo (h : d.HasColumn t c e f) (honly : d.OnlyTo t c target)
    (hgains : d.Gains (isTo e.id c target) d') (hnumbered : d'.Numbered) :
    d'.LinkedBy (linksBehind d.schema (isTo e.id c target) (target.link? d.schema e f)
      d.pendingKeys) := by
  refine hgains.linkedBy hnumbered (fun key hkey => link?_of_isTo h.entity?_eq h.field hkey) ?_
  intro l hl l' hl' hend
  obtain ⟨-, hchild', hfield'⟩ := ForeignTarget.inSchema_of_link? h.mem_entities h.mem_fields hl'
  rcases List.mem_append.1 hl with hown | hkeys
  · rw [Option.some.inj ((Option.mem_toList.1 hown).symm.trans hl')]
  · have hl := (List.filter_sublist.filterMap (link? d.schema)).subset hkeys
    have hin := h.numbered.linkedBy.inSchema l hl
    have hchild : l.child = e :=
      List.inj_on_of_nodup_map h.numbered.entityIds hin.child h.mem_entities
        (hchild' ▸ congrArg Endpoint.entity hend)
    have hfield : l.childField = f :=
      List.inj_on_of_nodup_map (h.numbered.fieldIds h.mem_entities) (hchild ▸ hin.childField)
        h.mem_fields (hfield' ▸ congrArg Endpoint.field hend)
    rw [Option.some.inj ((h.link?_eq_some honly hl hchild hfield).symm.trans hl')]

/-- Different relationships link different columns. -/
theorem HasColumn.nodup_links (h : d.HasColumn t c e f) {links : List Link}
    (hlinked : d.LinkedBy links) : d.linked.links.Nodup := by
  have hpairs : d.linked.relationships.Pairwise fun rel rel' => rel.ends ≠ rel'.ends :=
    List.pairwise_map.1 d.linked_resolution.links
  rw [Schema.links, List.Nodup, List.pairwise_filterMap]
  refine hpairs.imp_of_mem fun hrel hrel' hne names hnames names' hnames' heq => hne ?_
  obtain ⟨l, hl, hends⟩ := hlinked.exists_link hrel
  obtain ⟨l', hl', hends'⟩ := hlinked.exists_link hrel'
  rw [Schema.linkNames?, hlinked.resolve?_linked hl hends] at hnames
  rw [Schema.linkNames?, hlinked.resolve?_linked hl' hends'] at hnames'
  obtain ⟨hparent, hchild⟩ := Prod.mk.inj
    ((Option.some.inj hnames).trans (heq.trans (Option.some.inj hnames').symm))
  have hin := hlinked.inSchema l hl
  have hin' := hlinked.inSchema l' hl'
  obtain ⟨hparentEntity, hparentField⟩ := h.eq_of_names hin.parent hin'.parent hin.parentField
    hin'.parentField (congrArg (fun name : ColumnName => Text.foldAscii name.table) hparent)
    (congrArg (fun name : ColumnName => Text.foldAscii name.field) hparent)
  obtain ⟨hchildEntity, hchildField⟩ := h.eq_of_names hin.child hin'.child hin.childField
    hin'.childField (congrArg (fun name : ColumnName => Text.foldAscii name.table) hchild)
    (congrArg (fun name : ColumnName => Text.foldAscii name.field) hchild)
  rw [hends, hends', Link.ends, Link.ends, hparentEntity, hparentField, hchildEntity, hchildField]

/-- After keys of a column to a target have been gained, the one column that it references is the
target, if the target is there. -/
theorem Gains.sources_eq (h : d.HasColumn t c e f) (honly : d.OnlyTo t c target)
    (hgains : d.Gains (isTo e.id c target) d') (hnumbered : d'.Numbered) :
    d'.linked.syncForeignKeys.sources t c = (target.column? d.schema).toList := by
  have hlinked := hgains.linkedBy_isTo h honly hnumbered
  have hcolumn : d'.HasColumn t c e f :=
    ⟨h.toTabled.congr hgains.entities, hnumbered, hgains.schema_eq ▸ h.entity, h.field⟩
  have hmem : ∀ names, (names ∈ d'.linked.syncForeignKeys.links.filter fun names =>
      Text.sameName names.2.table t && Text.sameName names.2.field c) ↔
      (target.link? d.schema e f).map Link.names = some names := by
    intro names
    rw [List.mem_filter, hlinked.mem_links_iff, List.mem_map, Bool.and_eq_true,
      Option.map_eq_some_iff]
    constructor
    · rintro ⟨⟨l, hl, rfl⟩, htable, hfield⟩
      have hin := hlinked.inSchema l hl
      obtain ⟨hchild, hchildField⟩ := hcolumn.child_eq hin htable hfield
      rcases List.mem_append.1 hl with hown | hkeys
      · exact ⟨l, Option.mem_toList.1 hown, rfl⟩
      · have hl := (List.filter_sublist.filterMap (link? d.schema)).subset hkeys
        exact ⟨l, h.link?_eq_some honly hl hchild hchildField, rfl⟩
    · rintro ⟨l, hl, rfl⟩
      obtain ⟨-, hchild, hfield⟩ := ForeignTarget.inSchema_of_link? h.mem_entities h.mem_fields hl
      refine ⟨⟨l, List.mem_append_left _ (Option.mem_toList.2 hl), rfl⟩, ?_⟩
      rw [Link.names, hchild, hfield]
      exact h.names_sameName
  have hnodup : (d'.linked.syncForeignKeys.links).Nodup := by
    rw [Schema.links_syncForeignKeys]
    exact hcolumn.nodup_links hlinked
  rw [Schema.sources, eq_toList_of_nodup (hnodup.filter _) hmem, target.column?_eq d.schema e f]
  cases target.link? d.schema e f with
  | none => rfl
  | some l => rfl

end Draft

end Ddl

end EntityRelation
