import EntityRelation.Proofs.Json.Records
import EntityRelation.Proofs.Schema.ViewByField
import EntityRelation.Proofs.Session.Closed

/-!
# The intake lets through what is sound and hides no disagreement

A text is accepted exactly when it is a JSON object with a schema that decodes, a script, and no
referential fault; every other text gives an error after which one may ask again. What is accepted
is the received schema with its foreign key view recomputed. Where that changes what a field
claimed, a warning says so (`ofText_accepts`).
-/

namespace EntityRelation

namespace Schema

/-- A field by its place, with its entity. -/
def fieldAt? (s : Schema) (i j : Nat) : Option (Entity × Field) :=
  s.entities[i]?.bind fun e => e.fields[j]?.map (e, ·)

theorem fieldAt?_eq_some {s : Schema} {i j : Nat} {e : Entity} {f : Field} :
    s.fieldAt? i j = some (e, f) ↔ s.entities[i]? = some e ∧ e.fields[j]? = some f := by
  rw [fieldAt?]
  cases s.entities[i]? with
  | none => simp
  | some e' =>
      simp only [Option.bind_some, Option.map_eq_some_iff, Prod.mk.injEq, Option.some.injEq]
      constructor
      · rintro ⟨f', hf, rfl, rfl⟩
        exact ⟨rfl, hf⟩
      · rintro ⟨rfl, hf⟩
        exact ⟨f, hf, rfl, rfl⟩

/-- Recomputing the view leaves every field at its place. -/
theorem fieldAt?_syncForeignKeys {s : Schema} (h : s.DistinctIds) {i j : Nat} {e : Entity}
    {f : Field} (hat : s.fieldAt? i j = some (e, f)) :
    ∃ e', s.syncForeignKeys.fieldAt? i j = some (e', viewField (s.view ⟨e.id, f.id⟩) f) := by
  obtain ⟨he, hf⟩ := fieldAt?_eq_some.1 hat
  rw [syncForeignKeys_eq h]
  refine ⟨{ e with fields := e.fields.map fun f => viewField (s.view ⟨e.id, f.id⟩) f },
    fieldAt?_eq_some.2 ⟨?_, ?_⟩⟩
  · rw [mapEnds, List.getElem?_map, he]
    rfl
  · rw [List.getElem?_map, hf]
    rfl

end Schema

namespace Generated

/-! ## Decoding an answer -/

def Envelope.layout : Decoder.Layout Envelope where
  blank := {}
  members :=
    [Decoder.member "schema" .required Schema.ofJson schema fun schema e => { e with schema },
      Decoder.member "sqlCode" .required Decoder.text script fun script e => { e with script }]

/-- An answer whose members are in order decodes just when its two members do. -/
theorem envelope_eq_ok_iff {members : List (String × Json)} (h : Json.Sorted members)
    {e : Envelope} :
    Envelope.ofJson (.object members) = .ok e ↔
      ∃ schema, members.lookup "schema" = some schema ∧ Schema.ofJson schema = .ok e.schema ∧
        members.lookup "sqlCode" = some (.text e.script) := by
  refine (Envelope.layout.record_eq_ok_iff "struct Envelope" h.nodup).trans ?_
  rw [Envelope.layout, List.forall_mem_cons, List.forall_mem_singleton,
    Decoder.Member.isRead_required, Decoder.Member.isRead_required]
  simp only [Decoder.text_eq_ok_iff, exists_eq_right]
  constructor
  · rintro ⟨⟨schema, hschema, hdecode⟩, hscript⟩
    exact ⟨schema, hschema, hdecode, hscript⟩
  · rintro ⟨schema, hschema, hdecode, hscript⟩
    exact ⟨⟨schema, hschema, hdecode⟩, hscript⟩

/-! ## What is accepted -/

/-- A text that is an object with a schema and a script. The schema is an object with an array of
entities and an array of relationships, and it decodes. -/
def Holds (text : String) (received : Schema) (script : String) : Prop :=
  ∃ answer schema entities relationships,
    Json.parse? (Text.trimmed text) = some answer ∧
      answer.member? "schema" = some schema ∧
      schema.member? "entities" = some (.array entities) ∧
      schema.member? "relationships" = some (.array relationships) ∧
      answer.member? "sqlCode" = some (.text script) ∧
      Schema.ofJson schema = .ok received

/-- No referential error is found once the foreign key view is recomputed. -/
def IsSound (received : Schema) : Prop :=
  ∀ issue ∈ Validator.errors {} received.syncForeignKeys, issue.isReferential = false

theorem isArray_iff {j : Json} : isArray j = true ↔ ∃ items, j = .array items := by
  cases j with
  | array items => simp [isArray]
  | _ => simp [isArray]

theorem isText_iff {j : Json} : isText j = true ↔ ∃ value, j = .text value := by
  cases j with
  | text value => simp [isText]
  | _ => simp [isText]

theorem shapeFault?_eq_none_iff {answer : Json} :
    shapeFault? answer = none ↔
      ∃ schema entities relationships script,
        answer.member? "schema" = some schema ∧
          schema.member? "entities" = some (.array entities) ∧
          schema.member? "relationships" = some (.array relationships) ∧
          answer.member? "sqlCode" = some (.text script) := by
  rw [shapeFault?]
  constructor
  · intro h
    split at h
    · cases h
    · split at h
      · cases h
      · next schema hschema =>
        split at h
        · cases h
        · next hkeys =>
          split at h
          · next hscript =>
            have harrays := List.find?_eq_none.1 hkeys
            obtain ⟨hmember, -⟩ := Option.filter_eq_some_iff.1 hschema
            have harray : ∀ key ∈ ["entities", "relationships"], ∃ items,
                schema.member? key = some (.array items) := by
              intro key hkey
              have hany := harrays key hkey
              rw [Bool.not_eq_true, Bool.not_eq_false', Option.any_eq_true] at hany
              obtain ⟨j, hj, hj'⟩ := hany
              obtain ⟨items, rfl⟩ := isArray_iff.1 hj'
              exact ⟨items, hj⟩
            obtain ⟨entities, hentities⟩ := harray "entities" (by simp)
            obtain ⟨relationships, hrelationships⟩ := harray "relationships" (by simp)
            rw [Option.any_eq_true] at hscript
            obtain ⟨j, hj, hj'⟩ := hscript
            obtain ⟨script, rfl⟩ := isText_iff.1 hj'
            exact ⟨schema, entities, relationships, script, hmember, hentities, hrelationships, hj⟩
          · cases h
  · rintro ⟨schema, entities, relationships, script, hschema, hentities, hrelationships, hscript⟩
    have hanswer : isObject answer = true := by
      cases answer with
      | object members => rfl
      | _ => cases hschema
    have hobject : isObject schema = true := by
      cases schema with
      | object members => rfl
      | _ => cases hentities
    have hkeys : ["entities", "relationships"].find?
        (fun key => !(schema.member? key).any isArray) = none := by
      simp [hentities, hrelationships, isArray]
    rw [hanswer, hschema, hscript, Option.filter_some_pos hobject]
    dsimp only
    rw [hkeys]
    rfl

/-- What a sound envelope is accepted as. -/
def accept (received : Schema) (script : String) : Generated :=
  ⟨received.syncForeignKeys, script,
    drift received received.syncForeignKeys ++ Validator.errors {} received.syncForeignKeys ++
      Validator.warnings {} received.syncForeignKeys⟩

theorem ofEnvelope_eq_ok_iff {e : Envelope} {g : Generated} :
    ofEnvelope e = .ok g ↔ IsSound e.schema ∧ g = accept e.schema e.script := by
  have hsound : (Validator.errors {} e.schema.syncForeignKeys).find? (·.isReferential) = none ↔
      IsSound e.schema := by
    simp [IsSound, List.find?_eq_none]
  rw [ofEnvelope, Validator.validate, ← hsound]
  dsimp only
  cases (Validator.errors {} e.schema.syncForeignKeys).find? (·.isReferential) with
  | none => simp [accept, eq_comm]
  | some issue => simp

theorem exists_members {answer : Json} {key : String} {j : Json}
    (h : answer.member? key = some j) : ∃ members, answer = .object members := by
  cases answer with
  | object members => exact ⟨members, rfl⟩
  | _ => cases h

theorem ofText_eq_ok_iff {text : String} {g : Generated} :
    ofText text = .ok g ↔ ∃ received, Holds text received g.script ∧ IsSound received ∧
      g = accept received g.script := by
  rw [ofText]
  constructor
  · intro h
    split at h
    · cases h
    · next answer hanswer =>
      cases haccept : ofJson answer with
      | error fault =>
          rw [haccept] at h
          cases h
      | ok accepted =>
          rw [haccept] at h
          obtain rfl := Except.ok.inj h
          rw [ofJson] at haccept
          split at haccept
          · cases haccept
          · next hshape =>
            split at haccept
            · cases haccept
            · next e hdecode =>
              obtain ⟨schema, entities, relationships, script, hschema, hentities, hrelationships,
                hscript⟩ := shapeFault?_eq_none_iff.1 hshape
              obtain ⟨hsound, rfl⟩ := ofEnvelope_eq_ok_iff.1 haccept
              obtain ⟨members, rfl⟩ := exists_members hschema
              obtain ⟨schema', hschema', hreceived, htext⟩ :=
                (envelope_eq_ok_iff (Json.sorted_of_parse? hanswer)).1 hdecode
              obtain rfl : schema = schema' := Option.some.inj (hschema.symm.trans hschema')
              exact ⟨e.schema, ⟨_, schema, entities, relationships, hanswer, hschema, hentities,
                hrelationships, htext, hreceived⟩, hsound, rfl⟩
  · rintro ⟨received, ⟨answer, schema, entities, relationships, hanswer, hschema, hentities,
      hrelationships, hscript, hdecode⟩, hsound, hg⟩
    have hshape := shapeFault?_eq_none_iff.2
      ⟨schema, entities, relationships, g.script, hschema, hentities, hrelationships, hscript⟩
    obtain ⟨members, rfl⟩ := exists_members hschema
    have henvelope : Envelope.ofJson (.object members) = .ok ⟨received, g.script⟩ :=
      (envelope_eq_ok_iff (Json.sorted_of_parse? hanswer)).2 ⟨schema, hschema, hdecode, hscript⟩
    have haccept : ofEnvelope ⟨received, g.script⟩ = .ok g := ofEnvelope_eq_ok_iff.2 ⟨hsound, hg⟩
    rw [hanswer]
    dsimp only
    rw [ofJson, hshape]
    dsimp only
    rw [henvelope]
    dsimp only
    rw [haccept]
    rfl

/-! ## What becomes of the claims -/

/-- The warning that the claim of a received field does not hold. -/
def mismatch (e : Entity) (claimed derived : Field) : Issue :=
  .foreignKeyMismatch e.label derived.label claimed.references derived.references

/-- How an accepted schema stands to the received one. -/
structure Honors (received : Schema) (g : Generated) : Prop extends g.schema.Closed where
  /-- Nothing but the foreign key view may differ. -/
  bare : g.schema.bare = received.bare
  warnings : ∀ issue ∈ g.warnings, issue.isReferential = false
  /-- Every field is there, and what it claimed holds unless a warning says that it does not. -/
  claims : ∀ i j e f, received.fieldAt? i j = some (e, f) →
    ∃ e' f', g.schema.fieldAt? i j = some (e', f') ∧
      (mismatch e' f f' ∉ g.warnings →
        (∀ target, f.references = some target →
          f'.references = some target ∧ f'.isForeignKey = true) ∧
        (f.references = none → f.isForeignKey = true → f'.isForeignKey = true))
  /-- A warning about a claim is about a field whose claim does not hold. -/
  mismatches : ∀ entity field claimed derived,
    .foreignKeyMismatch entity field claimed derived ∈ g.warnings →
    ∃ i j e f e' f', received.fieldAt? i j = some (e, f) ∧ g.schema.fieldAt? i j = some (e', f') ∧
      .foreignKeyMismatch entity field claimed derived = mismatch e' f f' ∧
      ((∃ target, f.references = some target ∧ f'.references ≠ some target) ∨
        f.references = none ∧ f.isForeignKey = true ∧ f'.isForeignKey = false)

theorem isContradicted_iff {claimed derived : Field} :
    isContradicted claimed derived = true ↔
      (∃ target, claimed.references = some target ∧ derived.references ≠ some target) ∨
        claimed.references = none ∧ claimed.isForeignKey = true ∧ derived.isForeignKey = false := by
  rw [isContradicted]
  cases claimed.references with
  | none => simp
  | some target => simp

theorem mem_drift {received synced : Schema} {issue : Issue} :
    issue ∈ drift received synced ↔ ∃ i j e f e' f', received.fieldAt? i j = some (e, f) ∧
      synced.fieldAt? i j = some (e', f') ∧ isContradicted f f' = true ∧
      mismatch e' f f' = issue := by
  simp only [drift, fieldDrift, List.mem_flatMap, List.mem_map, List.mem_filter, Prod.exists]
  constructor
  · rintro ⟨e, e', hentities, f, f', ⟨hfields, hcontra⟩, rfl⟩
    obtain ⟨i, hi⟩ := List.mem_iff_getElem?.1 hentities
    obtain ⟨j, hj⟩ := List.mem_iff_getElem?.1 hfields
    rw [List.getElem?_zip_eq_some] at hi hj
    exact ⟨i, j, e, f, e', f', Schema.fieldAt?_eq_some.2 ⟨hi.1, hj.1⟩,
      Schema.fieldAt?_eq_some.2 ⟨hi.2, hj.2⟩, hcontra, rfl⟩
  · rintro ⟨i, j, e, f, e', f', hat, hat', hcontra, rfl⟩
    obtain ⟨he, hf⟩ := Schema.fieldAt?_eq_some.1 hat
    obtain ⟨he', hf'⟩ := Schema.fieldAt?_eq_some.1 hat'
    refine ⟨e, e', List.mem_of_getElem? (i := i) ?_, f, f',
      ⟨List.mem_of_getElem? (i := j) ?_, hcontra⟩, rfl⟩
    · exact List.getElem?_zip_eq_some.2 ⟨he, he'⟩
    · exact List.getElem?_zip_eq_some.2 ⟨hf, hf'⟩

/-- The validator does not compare claims. -/
theorem mismatch_notMem_report (v : Validator) (s : Schema) (entity field : String)
    (claimed derived : Option ColumnName) :
    Issue.foreignKeyMismatch entity field claimed derived ∉ v.errors s ++ v.warnings s := by
  intro h
  rcases List.mem_append.1 h with herror | hwarning
  · rw [Validator.errors] at herror
    rcases List.mem_append.1 herror with herror | hreference
    · rcases List.mem_append.1 herror with herror | hlink
      · rcases List.mem_append.1 herror with hentity | hcolumn
        · obtain ⟨_, e, _, _, hentity⟩ := mem_flatMapAfter.1 hentity
          simp [Validator.entityErrors] at hentity
        · obtain ⟨e, -, hcolumn⟩ := List.mem_flatMap.1 hcolumn
          rcases List.mem_append.1 hcolumn with hfield | hkey
          · obtain ⟨_, f, _, _, hfield⟩ := mem_flatMapAfter.1 hfield
            rw [Validator.fieldErrors] at hfield
            split at hfield
            · split at hfield
              · simp at hfield
              · split at hfield
                · simp at hfield
                · simp at hfield
            · split at hfield
              · simp at hfield
              · split at hfield
                · simp at hfield
                · simp at hfield
          · simp at hkey
      · obtain ⟨_, r, _, _, hlink⟩ := mem_flatMapAfter.1 hlink
        have hend : ∀ side, Issue.foreignKeyMismatch entity field claimed derived ∉
            Validator.endErrors s r side := by
          intro side hmem
          rw [Validator.endErrors] at hmem
          split at hmem
          · simp at hmem
          · simp at hmem
        simp [Validator.relationshipErrors, hend] at hlink
    · obtain ⟨e, -, hreference⟩ := List.mem_flatMap.1 hreference
      obtain ⟨f, -, hreference⟩ := List.mem_flatMap.1 hreference
      rw [Validator.referenceErrors] at hreference
      split at hreference
      · split at hreference
        · simp at hreference
        · split at hreference
          · simp at hreference
          · simp at hreference
      · simp at hreference
  · obtain ⟨e, -, hwarning⟩ := List.mem_flatMap.1 hwarning
    obtain ⟨fault, -, hwarning⟩ := List.mem_map.1 hwarning
    cases hwarning

theorem honors_accept {received : Schema} (h : IsSound received) (script : String) :
    Honors received (accept received script) := by
  have hclosed : received.syncForeignKeys.Closed :=
    ⟨Validator.referential_of_errors {} h, received.synced_syncForeignKeys⟩
  have hreferential : received.Referential := by
    rw [← Schema.referential_bare, ← Schema.bare_syncForeignKeys, Schema.referential_bare]
    exact hclosed.toReferential
  have hids : received.DistinctIds := ⟨hreferential.entityIds, hreferential.fieldIds⟩
  refine { toClosed := hclosed, bare := received.bare_syncForeignKeys, warnings := ?_,
           claims := ?_, mismatches := ?_ }
  · intro issue hissue
    rcases List.mem_append.1 hissue with hissue | hwarning
    · rcases List.mem_append.1 hissue with hdrift | herror
      · obtain ⟨_, _, _, _, _, _, -, -, -, rfl⟩ := mem_drift.1 hdrift
        rfl
      · exact h issue herror
    · obtain ⟨e, -, hwarning⟩ := List.mem_flatMap.1 hwarning
      obtain ⟨fault, -, rfl⟩ := List.mem_map.1 hwarning
      rfl
  · intro i j e f hat
    obtain ⟨e', hat'⟩ := Schema.fieldAt?_syncForeignKeys hids hat
    refine ⟨e', _, hat', fun hquiet => ?_⟩
    generalize received.view ⟨e.id, f.id⟩ = target at hat' hquiet
    have hcontra : ¬ isContradicted f (Schema.viewField target f) = true := fun hcontra =>
      hquiet (List.mem_append_left _ (List.mem_append_left _
        (mem_drift.2 ⟨i, j, e, f, e', _, hat, hat', hcontra, rfl⟩)))
    rw [isContradicted_iff, not_or] at hcontra
    refine ⟨fun claim hclaim => ?_, fun hnone hflag => ?_⟩
    · have htarget : target = some claim := by
        by_contra hne
        exact hcontra.1 ⟨claim, hclaim, hne⟩
      subst htarget
      exact ⟨rfl, rfl⟩
    · by_contra hfalse
      exact hcontra.2 ⟨hnone, hflag, Bool.not_eq_true _ ▸ hfalse⟩
  · intro entity field claimed derived hmem
    have hdrift : Issue.foreignKeyMismatch entity field claimed derived ∈
        drift received received.syncForeignKeys := by
      rw [accept, List.append_assoc] at hmem
      exact (List.mem_append.1 hmem).resolve_right (mismatch_notMem_report {} _ _ _ _ _)
    obtain ⟨i, j, e, f, e', f', hat, hat', hcontra, heq⟩ := mem_drift.1 hdrift
    exact ⟨i, j, e, f, e', f', hat, hat', heq.symm, isContradicted_iff.1 hcontra⟩

/-- A text is accepted exactly when it holds a sound schema and its script; otherwise one may ask
again. What is accepted honors what was received and keeps the script as it is. -/
theorem ofText_accepts (text : String) :
    ((∃ g, ofText text = .ok g) ↔ ∃ received script, Holds text received script ∧ IsSound received) ∧
      (∀ e, ofText text = .error e →
        (∃ fault, e = .malformedAnswer fault) ∧ e.isRetryable = true) ∧
      ∀ g, ofText text = .ok g → ∃ received, Holds text received g.script ∧ Honors received g := by
  refine ⟨⟨?_, ?_⟩, fun e he => ?_, fun g hg => ?_⟩
  · rintro ⟨g, hg⟩
    obtain ⟨received, hholds, hsound, -⟩ := ofText_eq_ok_iff.1 hg
    exact ⟨received, g.script, hholds, hsound⟩
  · rintro ⟨received, script, hholds, hsound⟩
    exact ⟨accept received script, ofText_eq_ok_iff.2 ⟨received, hholds, hsound, rfl⟩⟩
  · rw [ofText] at he
    split at he
    · obtain rfl := Except.error.inj he
      exact ⟨⟨_, rfl⟩, rfl⟩
    · next answer _ =>
      cases haccept : ofJson answer with
      | error fault =>
          rw [haccept] at he
          obtain rfl := Except.error.inj he
          exact ⟨⟨fault, rfl⟩, rfl⟩
      | ok g =>
          rw [haccept] at he
          cases he
  · obtain ⟨received, hholds, hsound, heq⟩ := ofText_eq_ok_iff.1 hg
    have hhonors := honors_accept hsound g.script
    rw [← heq] at hhonors
    exact ⟨received, hholds, hhonors⟩

end Generated

end EntityRelation
