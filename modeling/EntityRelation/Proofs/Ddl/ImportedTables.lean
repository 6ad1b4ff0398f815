import EntityRelation.Proofs.Ddl.Numbering
import EntityRelation.Proofs.Ddl.SourceText
import EntityRelation.Proofs.Ddl.TableExtension
import EntityRelation.Proofs.Schema.ViewByField
import EntityRelation.Proofs.Validation.Referential

/-!
# Whatever the script, an imported schema is well-formed

A table is only added under a new name and with a column, and clauses keep its columns apart
(`TableDraft.Extends`). So names stay distinct and types stay texts from one statement to the next
(`Draft.Tabled`), and what a script is read into is numbered, closed and free of referential faults
(`imported_of_importScript`).
-/

namespace EntityRelation

/-- What holds of a schema that has been read from a script. -/
structure Schema.Imported (s : Schema) : Prop extends s.Closed where
  nonempty : s.entities ≠ []
  entityIds_numbered : ∀ i e, s.entities[i]? = some e → e.id = Ddl.entityIdAt i
  fieldIds_numbered : ∀ i e, s.entities[i]? = some e →
    ∀ j f, e.fields[j]? = some f → f.id = Ddl.fieldIdAt i j
  fields : ∀ e ∈ s.entities, e.fields ≠ []
  entityNames : (s.entities.map fun e => Text.foldAscii e.name).Nodup
  fieldNames : ∀ e ∈ s.entities, (e.fields.map fun f => Text.foldAscii f.name).Nodup
  dataTypes : ∀ e ∈ s.entities, ∀ f ∈ e.fields, f.dataType ≠ ""
  relationshipIds_numbered : ∀ k r, s.relationships[k]? = some r → r.id = Ddl.relationshipIdAt k
  cardinalities : ∀ r ∈ s.relationships, r.cardinality = .oneToMany
  links : (s.relationships.map fun r => (r.parent, r.child)).Nodup
  unreported : ∀ v : Validator, ∀ issue ∈ v.errors s ++ v.warnings s, issue.isReferential = false

namespace Ddl

theorem NumberedBy.getElem? {α κ : Type} {key : α → κ} {number : Nat → κ} {as : List α}
    (h : NumberedBy key number as) {i : Nat} {a : α} (ha : as[i]? = some a) : key a = number i := by
  obtain ⟨hlt, rfl⟩ := List.getElem?_eq_some_iff.1 ha
  have hkey := congrArg (·[i]?) h
  simpa [hlt] using hkey

/-! ## The tables of a script -/

section

variable {α : Type} {p : α → Prop} {as : List α} {a : α}

theorem forall_mem_concat (has : ∀ b ∈ as, p b) (ha : p a) : ∀ b ∈ as ++ [a], p b :=
  List.forall_mem_append.2 ⟨has, List.forall_mem_singleton.2 ha⟩

theorem forall_mem_set {i : Nat} (has : ∀ b ∈ as, p b) (ha : p a) : ∀ b ∈ as.set i a, p b := by
  intro b hb
  rcases List.mem_or_eq_of_mem_set hb with hold | rfl
  · exact has b hold
  · exact ha

end

/-- Whatever columns are read from parts of a statement, their types have a property. -/
def Statement.TypesIn (Q : String → Prop) (s : Statement) : Prop :=
  ∀ c : Clause, c ⊆ s.lexemes → ∀ column, Column.ofClause c = .ok column → Q column.storedType

/-- The tables of a draft have columns, distinct names, and types with a property. -/
structure Draft.Tabled (Q : String → Prop) (draft : Draft) : Prop where
  fields : ∀ e ∈ draft.entities, e.fields ≠ []
  entityNames : (draft.entities.map fun e => Text.foldAscii e.name).Nodup
  fieldNames : ∀ e ∈ draft.entities, (e.fields.map fun f => Text.foldAscii f.name).Nodup
  dataTypes : ∀ e ∈ draft.entities, ∀ f ∈ e.fields, Q f.dataType

namespace Draft.Tabled

variable {Q : String → Prop} {draft : Draft} {s : Statement}

theorem empty : Tabled Q {} :=
  ⟨fun _ h => absurd h List.not_mem_nil, List.nodup_nil, fun _ h => absurd h List.not_mem_nil,
    fun _ h => absurd h List.not_mem_nil⟩

theorem congr (h : draft.Tabled Q) {d : Draft} (hd : d.entities = draft.entities) : d.Tabled Q :=
  ⟨hd ▸ h.fields, hd ▸ h.entityNames, hd ▸ h.fieldNames, hd ▸ h.dataTypes⟩

theorem addTable (h : draft.Tabled Q) {name : String} {body : Clause} (hs : s.TypesIn Q)
    (hbody : body ⊆ s.lexemes) : (draft.addTable s name body).Tabled Q := by
  rw [Draft.addTable]
  split
  · exact h.congr rfl
  · next hnew =>
    dsimp only
    split
    · exact h.congr rfl
    · next hfields =>
      rw [Bool.not_eq_true, Option.isSome_eq_false_iff, Option.isNone_iff_eq_none] at hnew
      generalize hcolumns : (newTable draft.entities.length s name).addColumns
        draft.entities.length s.line body.splitTopLevel = columns at hfields ⊢
      have hparts : ∀ c ∈ body.splitTopLevel, ∀ column, Column.ofClause c = .ok column →
          Q column.storedType := fun c hc =>
        hs c (List.Subset.trans (Clause.splitTopLevel_subset hc) hbody)
      have hcolumn : TableDraft.Extends draft.entities.length (fun column => Q column.storedType)
          (newTable draft.entities.length s name) columns :=
        hcolumns ▸ TableDraft.extends_addColumns hparts _
      have hconstraint : TableDraft.Extends draft.entities.length
          (fun column => Q column.storedType) columns
          (columns.applyConstraints s.line body.splitTopLevel) :=
        TableDraft.extends_applyConstraints _ _
      have htable := hcolumn.trans hconstraint
      refine ⟨forall_mem_concat h.fields ?_, ?_, forall_mem_concat h.fieldNames ?_,
        forall_mem_concat h.dataTypes ?_⟩
      · exact hconstraint.fields_ne_nil (by simpa using hfields)
      · rw [List.map_append, List.map_singleton]
        refine h.entityNames.append (List.nodup_singleton _) ?_
        rw [List.disjoint_singleton, htable.name_eq]
        intro hmem
        obtain ⟨e, he, hname⟩ := List.mem_map.1 hmem
        exact List.find?_eq_none.1 hnew e he (beq_iff_eq.2 hname)
      · exact htable.fieldNames List.nodup_nil
      · exact htable.dataTypes (fun _ hcolumn => hcolumn) fun _ h => absurd h List.not_mem_nil

theorem alterTable (h : draft.Tabled Q) {rest : Clause} (hs : s.TypesIn Q)
    (hrest : rest ⊆ s.lexemes) : (draft.alterTable s rest).Tabled Q := by
  rw [Draft.alterTable]
  split
  · exact h.congr rfl
  · next name actions hname =>
    split
    · exact h.congr rfl
    · next index _ =>
      split
      · exact h
      · next entity hentity =>
        have hactions : actions ⊆ s.lexemes := List.Subset.trans
          (((Clause.tableName?_suffix hname).trans (Clause.skip_suffix _ _)).trans
            (Clause.skip_suffix _ _)).subset hrest
        have htable : TableDraft.Extends index (fun column => Q column.storedType) { entity }
            ((Clause.splitTopLevel actions).foldl (TableDraft.addAction index s.line)
              { entity }) :=
          TableDraft.extends_addActions (fun action haction c hc =>
            hs c (List.Subset.trans hc.subset
              (List.Subset.trans (Clause.splitTopLevel_subset haction) hactions))) { entity }
        have he : entity ∈ draft.entities := List.mem_of_getElem? hentity
        generalize (Clause.splitTopLevel actions).foldl
          (TableDraft.addAction index s.line) { entity } = table at htable ⊢
        refine ⟨forall_mem_set h.fields ?_, ?_, forall_mem_set h.fieldNames ?_,
          forall_mem_set h.dataTypes ?_⟩
        · exact htable.fields_ne_nil (h.fields entity he)
        · have hnames : (draft.entities.set index table.entity).map
              (fun e => Text.foldAscii e.name) =
              draft.entities.map fun e => Text.foldAscii e.name := by
            rw [List.map_set, htable.name_eq]
            obtain ⟨hlt, rfl⟩ := List.getElem?_eq_some_iff.1 hentity
            have hsame := @List.set_getElem_self _ (draft.entities.map fun e =>
              Text.foldAscii e.name) index (by simpa using hlt)
            rwa [List.getElem_map] at hsame
          exact hnames ▸ h.entityNames
        · exact htable.fieldNames (h.fieldNames entity he)
        · exact htable.dataTypes (fun _ hcolumn => hcolumn) (h.dataTypes entity he)

theorem add (h : draft.Tabled Q) (hs : s.TypesIn Q) : (draft.add s).Tabled Q := by
  rw [Draft.add]
  split
  · next rest hkind =>
    have hrest := Statement.createTable_subset hkind
    rw [Draft.createTable]
    split
    · exact h.congr rfl
    · next hheader =>
      exact h.addTable hs (List.Subset.trans (tableHeader_subset hheader) hrest)
  · next rest hkind => exact h.alterTable hs (Statement.alterTable_subset hkind)
  · exact h

theorem foldl_add (h : draft.Tabled Q) {statements : List Statement}
    (hs : ∀ s ∈ statements, s.TypesIn Q) : (statements.foldl Draft.add draft).Tabled Q := by
  induction statements generalizing draft with
  | nil => exact h
  | cons s rest ih =>
      exact ih (h.add (hs s List.mem_cons_self)) fun t ht => hs t (List.mem_cons_of_mem s ht)

end Draft.Tabled

/-! ## The relationships of a script -/

/-- The relationships join different ends, and none states its cardinality. -/
structure Resolution.Linked (r : Resolution) : Prop where
  cardinalities : ∀ rel ∈ r.relationships, rel.cardinality = .oneToMany
  links : (r.relationships.map fun rel => (rel.parent, rel.child)).Nodup

namespace Resolution.Linked

variable {s : Schema} {r : Resolution}

theorem connect (h : r.Linked) (parent child : Endpoint) : (r.connect parent child).Linked := by
  rw [Resolution.connect]
  split
  · exact h
  · next hjoins =>
    refine ⟨forall_mem_concat h.cardinalities rfl, ?_⟩
    · rw [List.map_append, List.map_singleton]
      refine h.links.append (List.nodup_singleton _) ?_
      rw [List.disjoint_singleton]
      intro hmem
      obtain ⟨rel, hrel, hends⟩ := List.mem_map.1 hmem
      obtain ⟨hparent, hchild⟩ := Prod.mk.inj hends
      refine hjoins (List.any_eq_true.2 ⟨rel, hrel, ?_⟩)
      rw [Bool.and_eq_true, beq_iff_eq, beq_iff_eq]
      exact ⟨hparent, hchild⟩

theorem add (h : r.Linked) (key : PendingKey) : (r.add s key).Linked := by
  rw [Resolution.add]
  split
  · exact h
  · split
    · exact ⟨h.cardinalities, h.links⟩
    · exact h.connect _ _

theorem foldl_add (h : r.Linked) (keys : List PendingKey) :
    (keys.foldl (Resolution.add s) r).Linked := by
  induction keys generalizing r with
  | nil => exact h
  | cons key rest ih => exact ih (h.add key)

end Resolution.Linked

theorem Draft.linked_resolution (draft : Draft) : draft.resolution.Linked :=
  have hempty : Resolution.Linked {} := ⟨fun _ h => absurd h List.not_mem_nil, List.nodup_nil⟩
  hempty.foldl_add draft.pendingKeys

/-! ## The schema of a script -/

theorem Draft.imported_of_finish {draft : Draft} (hnumbered : draft.Numbered)
    (htabled : draft.Tabled (· ≠ "")) {report : ImportReport} (hfinish : draft.finish = .ok report) :
    report.schema.Imported := by
  have hclosed := hnumbered.closed_of_finish hfinish
  have hlinked := draft.linked_resolution
  have hsound := draft.sound_resolution
  obtain ⟨hne, hschema⟩ := of_finish hfinish
  have hids : Schema.DistinctIds ⟨draft.entities, draft.resolution.relationships⟩ :=
    ⟨hnumbered.entityIds, fun e he => hnumbered.fieldIds he⟩
  have hentities := congrArg Schema.entities (hschema.trans (Schema.syncForeignKeys_eq hids))
  have hrelationships := congrArg Schema.relationships hschema
  rw [Schema.relationships_syncForeignKeys] at hrelationships
  generalize Schema.view ⟨draft.entities, draft.resolution.relationships⟩ = view at hentities
  change report.schema.entities = draft.entities.map _ at hentities
  have hnames : (report.schema.entities.map fun e => Text.foldAscii e.name).Nodup := by
    rw [hentities, List.map_map]
    exact htabled.entityNames
  refine { toClosed := hclosed, nonempty := ?_, entityIds_numbered := ?_,
           fieldIds_numbered := ?_, fields := ?_, entityNames := hnames, fieldNames := ?_,
           dataTypes := ?_, relationshipIds_numbered := ?_, cardinalities := ?_, links := ?_,
           unreported := ?_ }
  · rwa [hentities, Ne, List.map_eq_nil_iff]
  · intro i e he
    rw [hentities, List.getElem?_map, Option.map_eq_some_iff] at he
    obtain ⟨e, he, rfl⟩ := he
    exact (hnumbered i e he).id
  · intro i e he j f hf
    rw [hentities, List.getElem?_map, Option.map_eq_some_iff] at he
    obtain ⟨e, he, rfl⟩ := he
    rw [List.getElem?_map, Option.map_eq_some_iff] at hf
    obtain ⟨g, hg, rfl⟩ := hf
    have hid := (hnumbered i e he).fields.getElem? hg
    exact hid
  · intro e he
    rw [hentities] at he
    obtain ⟨e, hmem, rfl⟩ := List.mem_map.1 he
    rw [Ne, List.map_eq_nil_iff]
    exact htabled.fields e hmem
  · intro e he
    rw [hentities] at he
    obtain ⟨e, hmem, rfl⟩ := List.mem_map.1 he
    rw [List.map_map]
    exact htabled.fieldNames e hmem
  · intro e he f hf
    rw [hentities] at he
    obtain ⟨e, hmem, rfl⟩ := List.mem_map.1 he
    obtain ⟨g, hg, rfl⟩ := List.mem_map.1 hf
    exact htabled.dataTypes e hmem g hg
  · intro k r hr
    rw [hrelationships] at hr
    exact hsound.numbered.getElem? hr
  · rw [hrelationships]
    exact hlinked.cardinalities
  · rw [hrelationships]
    exact hlinked.links
  · intro v issue hissue
    rcases List.mem_append.1 hissue with herror | hwarning
    · exact v.isReferential_of_closed hclosed hnames herror
    · obtain ⟨e, -, hwarning⟩ := List.mem_flatMap.1 hwarning
      obtain ⟨fault, -, rfl⟩ := List.mem_map.1 hwarning
      rfl

/-- Whatever a script consists of, the schema that it is read into is well-formed: ids are numbered,
every table has columns, names and links are distinct, types are there, relationships resolve, the
foreign key view is up to date, and the validator finds no referential fault. -/
theorem imported_of_importScript {sql : String} {report : ImportReport}
    (h : importScript sql = .ok report) : report.schema.Imported := by
  rw [importScript] at h
  split at h
  · cases h
  · next ls hlexemes =>
    refine Draft.imported_of_finish (Draft.Numbered.empty.foldl_add _)
      (Draft.Tabled.empty.foldl_add fun s hs c hc column hcolumn => ?_) h
    have hworded := (Lexer.worded_lexemesFrom hlexemes).of_subset (Statement.ofLexemes_subset hs)
    exact Column.storedType_ne (Column.dataType_ne_of_ofClause (hworded.of_subset hc) hcolumn)

/-- A script with a forward reference, a table that is defined again, and a table that is altered,
which repeats a foreign key. -/
def libraryScript : String :=
  "CREATE TABLE book (id INT, author INT REFERENCES author (id));
   CREATE TABLE author (id INT PRIMARY KEY);
   CREATE TABLE Book (id INT);
   ALTER TABLE BOOK ADD COLUMN note VARCHAR(9), ADD FOREIGN KEY (author) REFERENCES author;"

theorem imported_of_importScript_library :
    ∃ report, importScript libraryScript = .ok report ∧ report.schema.Imported := by
  have hok : (importScript libraryScript).isOk = true := by
    decide +kernel
  cases hreport : importScript libraryScript with
  | error e =>
      rw [hreport] at hok
      cases hok
  | ok report => exact ⟨report, rfl, imported_of_importScript hreport⟩

end Ddl

end EntityRelation
