import EntityRelation.Proofs.DefinitionOrder
import EntityRelation.Proofs.Edit.Transition
import EntityRelation.Proofs.Validation.WellFormed

/-!
# Operations keep schemas well-formed

What an accepted operation keeps is read off the edit that it carries out. Ids are kept apart and
links in place whatever the names are, and names are kept apart as long as ids are
(`closed_and_named_of_perform`). A refused operation changes nothing, so a well-formed schema stays
well-formed, and the validator has little to say about it (`operations_keep_wellFormed`).
-/

namespace EntityRelation

namespace Operation

variable {s : Schema} {ids : IdSupply} {op : Operation} {p : Performed}

/-- What an operation leads to is closed, with names as they should be if they were before. -/
theorem closed_and_named_of_perform (hs : s.Closed) (hfresh : ids.Fresh s)
    (h : op.perform s ids = .ok p) : p.schema.Closed ∧ (s.Named → p.schema.Named) := by
  have href := hs.toReferential
  cases Transition.of_perform h with
  | addEntity =>
      obtain ⟨hfree, k, hk⟩ := s.freeName_spec
      refine ⟨⟨href.pushNew _ hfresh, hs.synced.pushEntity href.resolves (Schema.bare_newEntity ..)⟩,
        fun hn => ?_⟩
      exact hn.pushNew (hk ▸ NewEntity.isName_candidate k) hfree _ _
  | addEntityNamed isName free =>
      exact ⟨⟨href.pushNew _ hfresh, hs.synced.pushEntity href.resolves (Schema.bare_newEntity ..)⟩,
        fun hn => hn.pushNew isName free _ _⟩
  | deleteEntity _ =>
      exact ⟨(href.withoutEntity _).closed_syncForeignKeys,
        fun hn => (hn.withoutEntity _).syncForeignKeys⟩
  | renameEntity isName _ free =>
      exact ⟨(href.rename _ _).closed_syncForeignKeys,
        fun hn => (hn.rename href isName free).syncForeignKeys⟩
  | @moveEntity id position _ _ =>
      have hplace := s.unplaced_updateEntity id (fun e => { e with position }) fun _ => rfl
      exact ⟨hs.of_unplaced hplace, fun hn => hn.of_unplaced hplace⟩
  | @addField entity field stored _ isName found free =>
      exact ⟨(href.appendField entity hfresh.field).closed_syncForeignKeys,
        fun hn => (hn.appendField href { field with id := ids.field, name := stored } found isName
          free).syncForeignKeys⟩
  | @replaceField entity id field _ stored _ isName found _ free =>
      exact ⟨(href.putField entity { field with id, name := stored }).closed_syncForeignKeys,
        fun hn => (hn.putField href { field with id, name := stored } found isName
          free).syncForeignKeys⟩
  | deleteField found _ others =>
      exact ⟨(href.withoutField _ _).closed_syncForeignKeys,
        fun hn => (hn.withoutField href found others _).syncForeignKeys⟩
  | connect new parent child free =>
      have hnew : ∀ r' ∈ s.relationships, r'.id ≠ _ := new ▸ hfresh.relationship
      exact ⟨(href.pushRelationship hnew parent child).closed_syncForeignKeys,
        fun hn => (hn.pushRelationship free).syncForeignKeys⟩
  | deleteRelationship _ =>
      exact ⟨(href.withoutRelationship _).closed_syncForeignKeys,
        fun hn => (hn.withoutRelationship _).syncForeignKeys⟩
  | setCardinality _ =>
      exact ⟨⟨href.withCardinality _ _, hs.synced.withCardinality _ _⟩,
        fun hn => hn.withCardinality _ _⟩

/-- The schema after an operation: a refused one leaves it as it is. -/
def schemaAfter (s : Schema) (ids : IdSupply) (op : Operation) : Schema :=
  match op.perform s ids with
  | .ok performed => performed.schema
  | .error _ => s

theorem wellFormed_of_perform (hs : s.WellFormed) (hfresh : ids.Fresh s)
    (h : op.perform s ids = .ok p) : p.schema.WellFormed := by
  obtain ⟨hclosed, hnamed⟩ := closed_and_named_of_perform hs.closed hfresh h
  exact { hclosed, hnamed hs.toNamed with }

end Operation

/-- Every operation on a well-formed schema is refused and changes nothing, or leads to a
well-formed schema. In a well-formed schema with ASCII names, the validator finds no errors but
missing primary keys and table names against the rules for names. -/
theorem operations_keep_wellFormed (s : Schema) (hs : s.WellFormed) :
    (∀ ids : IdSupply, ids.Fresh s → ∀ op : Operation,
      (∃ e, op.perform s ids = .error e ∧ op.schemaAfter s ids = s) ∨
        ∃ p, op.perform s ids = .ok p ∧ op.schemaAfter s ids = p.schema ∧ p.schema.WellFormed) ∧
      (s.AsciiNames → ∀ (v : Validator), ∀ issue ∈ (v.validate s).errors,
        (∃ table, issue = .missingPrimaryKey table) ∨
          ∃ table fault, issue = .invalidEntityName table fault) := by
  constructor
  · intro ids hfresh op
    cases h : op.perform s ids with
    | error e => exact Or.inl ⟨e, rfl, by rw [Operation.schemaAfter, h]⟩
    | ok p =>
        refine Or.inr ⟨p, rfl, by rw [Operation.schemaAfter, h], ?_⟩
        exact Operation.wellFormed_of_perform hs hfresh h
  · intro hascii v issue hissue
    exact Validator.errors_of_wellFormed v hs hascii hissue

theorem referential_shop : Schema.shop.Referential :=
  ⟨by decide, by decide, by decide, by decide⟩

theorem named_shop : Schema.shop.Named :=
  ⟨by decide, by decide, by decide, by decide, by decide, by decide⟩

/-- The shop is well-formed once its foreign key view is there, and stays so. -/
theorem operations_keep_wellFormed_shop :
    Schema.shop.syncForeignKeys.WellFormed ∧
      (∀ op : Operation, ∀ p, op.perform Schema.shop.syncForeignKeys {} = .ok p →
        p.schema.WellFormed) ∧
      ∀ issue ∈ (Validator.validate {} Schema.shop.syncForeignKeys).errors,
        (∃ table, issue = .missingPrimaryKey table) ∨
          ∃ table fault, issue = .invalidEntityName table fault := by
  have hs : Schema.shop.syncForeignKeys.WellFormed :=
    { referential_shop.syncForeignKeys, named_shop.syncForeignKeys with
      synced := Schema.shop.synced_syncForeignKeys }
  have hfresh : IdSupply.Fresh {} Schema.shop.syncForeignKeys :=
    ⟨by decide, by decide, by decide⟩
  have hascii : Schema.shop.syncForeignKeys.AsciiNames := by
    unfold Schema.AsciiNames
    decide
  refine ⟨hs, fun op p hp => ?_, fun issue => ?_⟩
  · rcases (operations_keep_wellFormed _ hs).1 {} hfresh op with ⟨e, he, -⟩ | ⟨q, hq, -, hw⟩
    · rw [hp] at he
      cases he
    · rw [hp] at hq
      obtain rfl := Except.ok.inj hq
      exact hw
  · exact (operations_keep_wellFormed _ hs).2 hascii {} issue

end EntityRelation
