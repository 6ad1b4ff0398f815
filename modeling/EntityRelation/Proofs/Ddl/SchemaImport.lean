import EntityRelation.Proofs.Ddl.Renumbering

/-!
# Schemas put together again

The tables of a script are added one after the other, and when the last one has been added their
foreign keys are resolved. What has been read so far is that of the tables so far
(`Draft.Holds.add`), and every pending foreign key becomes the relationship that it was written
for (`Resolution.add_pends`), since both of its ends are found by their names.
-/

namespace EntityRelation

/-- What a script can say about a schema. -/
structure Schema.IsScriptable (s : Schema) : Prop extends s.DistinctIds where
  nonempty : s.isEmpty = false
  names : (s.entities.map fun e => Text.foldAscii e.name).Nodup
  scriptable : ∀ e ∈ s.entities, e.IsScriptable
  fieldNames : ∀ e ∈ s.entities, (e.fields.map fun f => Text.foldAscii f.name).Nodup
  resolves : ∀ r ∈ s.relationships, (s.resolve? r).isSome
  ends : (s.relationships.map fun r => (r.parent, r.child)).Nodup
  synced : s.Synced

namespace Ddl

/-- The key is what the clause of a relationship gives. -/
def Pends (s : Schema) (es : List Entity) (r : Relationship) (key : PendingKey) : Prop :=
  ∃ i line link, s.resolve? r = some link ∧ es[i]? = some link.child ∧
    key = TableDraft.pendingKey (entityIdAt i) line (ForeignKeyDefinition.ofLink link)

/-- The relationships of a schema in the order of their tables. -/
def relationshipsOf (s : Schema) (es : List Entity) : List Relationship :=
  es.flatMap fun e => s.incoming e.id

/-- The draft holds the tables so far and their foreign keys. -/
structure Draft.Holds (s : Schema) (o : ScriptOptions) (es done : List Entity) (draft : Draft) :
    Prop where
  entities : draft.entities = done.mapIdx (importedEntity o)
  pendingKeys : List.Forall₂ (Pends s es) (relationshipsOf s done) draft.pendingKeys
  skipped : draft.skipped = []
  warnings : draft.warnings = []

/-- The import keeps names. -/
theorem foldedNames_importedEntity (o : ScriptOptions) (es : List Entity) :
    (es.mapIdx (importedEntity o)).map (fun e => Text.foldAscii e.name) =
      es.map fun e => Text.foldAscii e.name := by
  rw [map_mapIdx]
  exact mapIdx_const (fun e : Entity => Text.foldAscii e.name) es

variable {s : Schema} (h : s.IsScriptable) {o : ScriptOptions} {es : List Entity}
  (hes : es.Perm s.entities)

theorem Draft.Holds.empty (s : Schema) (o : ScriptOptions) (es : List Entity) :
    Draft.Holds s o es [] {} :=
  ⟨rfl, List.Forall₂.nil, rfl, rfl⟩

include h

theorem child_eq {e : Entity} (he : e ∈ s.entities) {r : Relationship} (hr : r ∈ s.incoming e.id) :
    ∃ link, s.resolve? r = some link ∧ link.child = e := by
  obtain ⟨hmem, hchild⟩ := List.mem_filter.1 hr
  obtain ⟨link, hlink⟩ := Option.isSome_iff_exists.1 (h.resolves r hmem)
  obtain ⟨-, hend⟩ := (Schema.resolve?_eq_some_iff r link).1 hlink
  obtain ⟨hentity, -⟩ := (Schema.endpoint?_eq_some_iff r.child).1 hend
  rw [beq_iff_eq] at hchild
  rw [hchild, Schema.entity?_eq_some h.entities he] at hentity
  exact ⟨link, hlink, (Option.some.inj hentity).symm⟩

/-- The foreign keys of one table. -/
theorem forall₂_pends {i : Nat} {e : Entity} (hi : es[i]? = some e) (he : e ∈ s.entities)
    (line : Nat) :
    List.Forall₂ (Pends s es) (s.incoming e.id)
      ((((s.incoming e.id).filterMap s.resolve?).map ForeignKeyDefinition.ofLink).map
        (TableDraft.pendingKey (entityIdAt i) line)) := by
  have hlinks : ∀ r ∈ s.incoming e.id, ∃ link, s.resolve? r = some link ∧ link.child = e :=
    fun r hr => child_eq h he hr
  generalize s.incoming e.id = rs at hlinks
  induction rs with
  | nil => exact List.Forall₂.nil
  | cons r rs ih =>
      obtain ⟨link, hlink, rfl⟩ := hlinks r List.mem_cons_self
      rw [List.filterMap_cons, hlink]
      refine List.Forall₂.cons ⟨i, line, link, hlink, hi, rfl⟩ ?_
      exact ih fun r' hr' => hlinks r' (List.mem_cons_of_mem _ hr')

include hes

/-- One more table. -/
theorem Draft.Holds.add {done rest : List Entity} {e : Entity} {draft : Draft} {st : Statement}
    (hdraft : draft.Holds s o es done) (hsplit : es = done ++ e :: rest)
    (hst : IsTable (if o.includePositions then some e.position else none) e
      (TableDefinition.ofEntity s o e).foreignKeys st) :
    (draft.add st).Holds s o es (done ++ [e]) := by
  have hmem : e ∈ s.entities := hes.subset (by simp [hsplit])
  have hindex : es[draft.entities.length]? = some e := by
    rw [hsplit, hdraft.entities, List.length_mapIdx]
    simp
  have hnew : Text.foldAscii e.name ∉ draft.entities.map fun e => Text.foldAscii e.name := by
    have hnames : (es.map fun e => Text.foldAscii e.name).Nodup :=
      (hes.map fun e : Entity => Text.foldAscii e.name).nodup_iff.2 h.names
    rw [hsplit, List.map_append, List.map_cons, List.nodup_append] at hnames
    rw [hdraft.entities, foldedNames_importedEntity]
    intro hold
    exact hnames.2.2 _ hold _ List.mem_cons_self rfl
  have hadd := Draft.add_table hst (h.scriptable e hmem).fields_ne_nil (h.fieldNames e hmem) hnew
  have hpends := forall₂_pends h hindex hmem st.line
  rw [hadd]
  constructor
  · rw [List.mapIdx_concat, hdraft.entities, List.length_mapIdx]
  · rw [relationshipsOf, List.flatMap_append, List.flatMap_singleton]
    exact List.rel_append hdraft.pendingKeys hpends
  · exact hdraft.skipped
  · exact hdraft.warnings

/-- All tables. -/
theorem holds_foldl_add {ss : List Statement}
    (hss : List.Forall₂ (fun e => IsTable (if o.includePositions then some e.position else none) e
      (TableDefinition.ofEntity s o e).foreignKeys) es ss) :
    (ss.foldl Draft.add {}).Holds s o es es := by
  have hrest : ∀ (done rest : List Entity) (ss : List Statement) (draft : Draft),
      List.Forall₂ (fun e => IsTable (if o.includePositions then some e.position else none) e
        (TableDefinition.ofEntity s o e).foreignKeys) rest ss →
      es = done ++ rest → draft.Holds s o es done → (ss.foldl Draft.add draft).Holds s o es es := by
    intro done rest ss draft hss hsplit hdraft
    induction hss generalizing done draft with
    | nil =>
        rw [List.append_nil] at hsplit
        rw [List.foldl_nil, hsplit]
        exact hsplit ▸ hdraft
    | @cons e st rest ss hst _ ih =>
        have hnext := hdraft.add h hes hsplit hst
        exact ih (done ++ [e]) _ (by rw [hsplit, List.append_assoc, List.singleton_append]) hnext
  exact hrest [] es ss {} hss rfl (Draft.Holds.empty s o es)

omit h hes

/-! ## Looking up imported things -/

theorem nodup_mapIdx_index {α β : Type} {g : Nat → β} (hg : Function.Injective g) (as : List α) :
    (as.mapIdx fun i _ => g i).Nodup := by
  have hrange : (as.mapIdx fun i _ => g i) = (List.range as.length).map g := by
    refine List.ext_getElem (by simp) fun i hi _ => ?_
    rw [List.getElem_mapIdx, List.getElem_map, List.getElem_range]
  rw [hrange]
  exact List.nodup_range.map hg

theorem mem_mapIdx_of_getElem? {α β : Type} (g : Nat → α → β) {as : List α} {i : Nat} {a : α}
    (h : as[i]? = some a) : g i a ∈ as.mapIdx g := by
  obtain ⟨hi, rfl⟩ := List.getElem?_eq_some_iff.1 h
  exact List.mem_mapIdx.2 ⟨i, hi, rfl⟩

variable {t : Schema} (ht : t.entities = es.mapIdx (importedEntity o)) {i j : Nat} {e : Entity}
  {f : Field}

include ht

theorem entity?_imported (hi : es[i]? = some e) :
    t.entity? (entityIdAt i) = some (importedEntity o i e) := by
  have hids : (t.entities.map (·.id)).Nodup := by
    rw [ht, map_mapIdx]
    exact nodup_mapIdx_index entityIdAt_injective es
  exact Schema.entity?_eq_some hids (ht ▸ mem_mapIdx_of_getElem? (importedEntity o) hi)

theorem entityNamed?_imported (hnames : (es.map fun e => Text.foldAscii e.name).Nodup)
    (hi : es[i]? = some e) : t.entityNamed? e.name = some (importedEntity o i e) := by
  have hfolded : (t.entities.map fun e => Text.foldAscii e.name).Nodup := by
    rw [ht, foldedNames_importedEntity]
    exact hnames
  exact find?_key_eq_some hfolded (ht ▸ mem_mapIdx_of_getElem? (importedEntity o) hi)

omit ht

theorem fieldNamed?_imported (hnames : (foldedNames e.fields).Nodup) (hj : e.fields[j]? = some f) :
    (importedEntity o i e).fieldNamed? f.name = some (importedField i j f) := by
  have hfolded : (foldedNames (e.fields.mapIdx (importedField i))).Nodup := by
    rw [foldedNames, map_mapIdx]
    exact (mapIdx_const (fun f : Field => Text.foldAscii f.name) e.fields).symm ▸ hnames
  exact find?_key_eq_some hfolded (mem_mapIdx_of_getElem? (importedField i) hj)

/-! ## Foreign keys -/

include h hes ht

/-- A pending foreign key joins the ends of the relationship that it was written for. -/
theorem add_pends {r : Relationship} {key : PendingKey} (hpends : Pends s es r key)
    (resolution : Resolution) : Resolution.add t resolution key =
      resolution.connect (importedEnd es r.parent) (importedEnd es r.child) := by
  obtain ⟨i, line, link, hlink, hi, rfl⟩ := hpends
  obtain ⟨hparent, hchild⟩ := (Schema.resolve?_eq_some_iff r link).1 hlink
  obtain ⟨ip, jp, hparent⟩ := exists_isAt hes hparent
  obtain ⟨_, jc, hchild⟩ := exists_isAt hes hchild
  have hchild : IsAt es r.child i jc link.child link.childField :=
    ⟨hi, hchild.field, hchild.entity_id, hchild.field_id⟩
  have hnames : (es.map fun e => Text.foldAscii e.name).Nodup :=
    (hes.map fun e : Entity => Text.foldAscii e.name).nodup_iff.2 h.names
  have hchildField := fieldNamed?_imported (o := o) (i := i)
    (h.fieldNames _ (hes.subset (List.mem_of_getElem? hi))) hchild.field
  have hparentField := fieldNamed?_imported (o := o) (i := ip)
    (h.fieldNames _ (hes.subset (List.mem_of_getElem? hparent.entity))) hparent.field
  have hends : (TableDraft.pendingKey (entityIdAt i) line (ForeignKeyDefinition.ofLink link)).ends t
      (importedEntity o i link.child) =
      .ok (⟨entityIdAt ip, fieldIdAt ip jp⟩, ⟨entityIdAt i, fieldIdAt i jc⟩) := by
    simp only [PendingKey.ends, TableDraft.pendingKey, ForeignKeyDefinition.ofLink, hchildField,
      entityNamed?_imported ht hnames hparent.entity, PendingKey.parentField?, hparentField]
    rfl
  have hentity := entity?_imported ht hi
  rw [importedEnd_eq h.toDistinctIds hes hparent, importedEnd_eq h.toDistinctIds hes hchild,
    Resolution.add]
  simp only [TableDraft.pendingKey] at hends ⊢
  rw [hentity]
  simp only [hends]

/-- A relationship as it is imported. -/
def importedRelationship (es : List Entity) (index : Nat) (r : Relationship) : Relationship where
  id := relationshipIdAt index
  parent := importedEnd es r.parent
  child := importedEnd es r.child
  cardinality := .standard

omit ht

theorem ends_inj {r r' : Relationship} (hr : r ∈ s.relationships) (hr' : r' ∈ s.relationships)
    (hparent : importedEnd es r.parent = importedEnd es r'.parent)
    (hchild : importedEnd es r.child = importedEnd es r'.child) :
    (r.parent, r.child) = (r'.parent, r'.child) := by
  obtain ⟨link, hlink⟩ := Option.isSome_iff_exists.1 (h.resolves r hr)
  obtain ⟨link', hlink'⟩ := Option.isSome_iff_exists.1 (h.resolves r' hr')
  obtain ⟨hp, hc⟩ := (Schema.resolve?_eq_some_iff r link).1 hlink
  obtain ⟨hp', hc'⟩ := (Schema.resolve?_eq_some_iff r' link').1 hlink'
  obtain ⟨_, _, hp⟩ := exists_isAt hes hp
  obtain ⟨_, _, hc⟩ := exists_isAt hes hc
  obtain ⟨_, _, hp'⟩ := exists_isAt hes hp'
  obtain ⟨_, _, hc'⟩ := exists_isAt hes hc'
  rw [importedEnd_inj h.toDistinctIds hes hp hp' hparent,
    importedEnd_inj h.toDistinctIds hes hc hc' hchild]

include ht

/-- The pending foreign keys give their relationships, and none of them twice. -/
theorem foldl_add_pends {rs : List Relationship} {keys : List PendingKey}
    (hkeys : List.Forall₂ (Pends s es) rs keys) (hrs : ∀ r ∈ rs, r ∈ s.relationships)
    (hends : (rs.map fun r => (r.parent, r.child)).Nodup) :
    keys.foldl (Resolution.add t) {} = { relationships := rs.mapIdx (importedRelationship es) } := by
  have hrest : ∀ (done rest : List Relationship) (keys : List PendingKey),
      List.Forall₂ (Pends s es) rest keys → rs = done ++ rest →
      keys.foldl (Resolution.add t) { relationships := done.mapIdx (importedRelationship es) } =
        { relationships := rs.mapIdx (importedRelationship es) } := by
    intro done rest keys hkeys hsplit
    induction hkeys generalizing done with
    | nil =>
        rw [List.append_nil] at hsplit
        rw [List.foldl_nil, hsplit]
    | @cons r key rest keys hpends _ ih =>
        have hjoins : Resolution.joins { relationships := done.mapIdx (importedRelationship es) }
            (importedEnd es r.parent) (importedEnd es r.child) = false := by
          rw [Resolution.joins, List.any_eq_false]
          intro r' hr' heq
          obtain ⟨k, hk, rfl⟩ := List.mem_mapIdx.1 hr'
          rw [Bool.and_eq_true, beq_iff_eq, beq_iff_eq] at heq
          have hmem : done[k] ∈ done := List.getElem_mem hk
          have hsame := ends_inj h hes (hrs done[k] (by simp [hsplit])) (hrs r (by simp [hsplit]))
            heq.1 heq.2
          rw [hsplit, List.map_append, List.map_cons, List.nodup_append] at hends
          exact hends.2.2 _ (List.mem_map_of_mem hmem) _ List.mem_cons_self hsame
        have hconnect : Resolution.connect
            { relationships := done.mapIdx (importedRelationship es) }
            (importedEnd es r.parent) (importedEnd es r.child) =
            { relationships := (done ++ [r]).mapIdx (importedRelationship es) } := by
          rw [Resolution.connect, hjoins, List.mapIdx_concat, List.length_mapIdx]
          rfl
        rw [List.foldl_cons, add_pends h hes ht hpends, hconnect]
        exact ih (done ++ [r]) (by rw [hsplit, List.append_assoc, List.singleton_append])
  exact hrest [] rs keys hkeys rfl

omit ht

theorem nodup_relationshipsOf :
    ((relationshipsOf s es).map fun r => (r.parent, r.child)).Nodup := by
  rw [relationshipsOf, List.map_flatMap, List.nodup_flatMap]
  constructor
  · intro e _
    exact h.ends.sublist (List.filter_sublist.map _)
  · have hids : es.Pairwise fun e e' => e.id ≠ e'.id :=
      List.pairwise_map.1 (entityIds_nodup h.toDistinctIds hes)
    refine hids.imp fun hne => ?_
    intro pair hpair hpair'
    obtain ⟨r, hr, rfl⟩ := List.mem_map.1 hpair
    obtain ⟨r', hr', heq⟩ := List.mem_map.1 hpair'
    have hchild := beq_iff_eq.1 (List.mem_filter.1 hr).2
    have hchild' := beq_iff_eq.1 (List.mem_filter.1 hr').2
    rw [Prod.mk.injEq] at heq
    rw [heq.2] at hchild'
    exact hne (hchild.symm.trans hchild')

/-- Every relationship is imported. -/
theorem relationshipsOf_perm : (relationshipsOf s es).Perm s.relationships := by
  have hnodup := (nodup_relationshipsOf h hes).of_map
  rw [List.perm_ext_iff_of_nodup hnodup h.ends.of_map]
  intro r
  rw [relationshipsOf, List.mem_flatMap]
  constructor
  · rintro ⟨e, -, hr⟩
    exact (List.mem_filter.1 hr).1
  · intro hr
    obtain ⟨link, hlink⟩ := Option.isSome_iff_exists.1 (h.resolves r hr)
    obtain ⟨-, hchild⟩ := (Schema.resolve?_eq_some_iff r link).1 hlink
    obtain ⟨hentity, -⟩ := (Schema.endpoint?_eq_some_iff r.child).1 hchild
    refine ⟨link.child, hes.mem_iff.2 (Schema.mem_of_entity? hentity), ?_⟩
    exact List.mem_filter.2 ⟨hr, beq_iff_eq.2 (Schema.id_of_entity? hentity).symm⟩

end Ddl

end EntityRelation
