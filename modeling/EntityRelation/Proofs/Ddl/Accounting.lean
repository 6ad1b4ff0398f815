import EntityRelation.Proofs.Ddl.Findings
import EntityRelation.Proofs.Ddl.Numbering

/-!
# Nothing in a script is lost

A statement that creates a table gives a table, is left out, or is warned about because the table is
there already, and no other statement does any of this (`Draft.takes_add`). So tables, statements
left out and repetitions add up to the statements that create tables, and an import fails only when
there are none or all of them are left out. A foreign key that a clause gives belongs to a table of
the draft, and comes to a relationship, to one that is there already, or to a warning
(`Resolution.settles_add`).
-/

namespace EntityRelation

namespace Ddl

namespace Draft

/-! ## What one statement does -/

/-- What a statement does to a draft. -/
inductive Takes (draft : Draft) (s : Statement) : Draft → Prop where
  | table (creates : s.createsTable = true) (table : TableDraft)
      (losses : ∀ w ∈ table.warnings, w.cause.isClauseLoss = true)
      (own : ∀ key ∈ table.pendingKeys, key.child = table.entity.id) :
      Takes draft s { draft.absorb table with entities := draft.entities ++ [table.entity] }
  | leftOut (creates : s.createsTable = true) (fault : TableFault) (ws : List Warning)
      (losses : ∀ w ∈ ws, w.cause.isClauseLoss = true) :
      Takes draft s ({ draft with warnings := draft.warnings ++ ws }.skip s fault)
  | repeated (creates : s.createsTable = true) (name : String)
      (taken : (draft.schema.entityNamed? name).isSome = true) :
      Takes draft s (draft.warn s.line (.duplicateTable name))
  | altered (alters : s.createsTable = false) (index : Nat) (entity : Entity) (table : TableDraft)
      (stands : draft.entities[index]? = some entity) (id : table.entity.id = entity.id)
      (losses : ∀ w ∈ table.warnings, w.cause.isClauseLoss = true)
      (own : ∀ key ∈ table.pendingKeys, key.child = table.entity.id) :
      Takes draft s { draft.absorb table with entities := draft.entities.set index table.entity }
  | unmatched (alters : s.createsTable = false) (cause : WarningCause)
      (other : cause.isDuplicateTable = false) : Takes draft s (draft.warn s.line cause)
  | passed (other : s.createsTable = false) : Takes draft s draft

theorem losses_of_warnsOf {kind : WarningCause → Bool} {d d' : TableDraft}
    (h : d.WarnsOf kind d') (hd : d.warnings = [])
    (hkind : ∀ cause, kind cause = true → cause.isClauseLoss = true) :
    ∀ w ∈ d'.warnings, w.cause.isClauseLoss = true := by
  obtain ⟨ws, hws, hall⟩ := h.mono hkind
  rw [hws, hd, List.nil_append]
  exact hall

theorem takes_createTable (draft : Draft) {s : Statement} (hs : s.createsTable = true)
    (rest : Clause) : draft.Takes s (draft.createTable s rest) := by
  rw [createTable]
  split
  · next fault _ =>
    have hskip : draft.Takes s _ := .leftOut hs fault [] fun _ hw => absurd hw List.not_mem_nil
    rwa [List.append_nil] at hskip
  · next name body _ =>
    rw [addTable]
    split
    · next htaken => exact .repeated hs name htaken
    · dsimp only
      have hcolumns := @TableDraft.warnsOf_addColumns draft.entities.length s.line
        body.splitTopLevel (newTable draft.entities.length s name)
      have hlosses := hcolumns.mono WarningCause.isClauseLoss_of_isColumnLoss
      split
      · next hnone =>
        rw [List.isEmpty_iff] at hnone
        have hkeys := TableDraft.pendingKeys_addColumns hnone
        generalize (newTable draft.entities.length s name).addColumns draft.entities.length s.line
          body.splitTopLevel = columns at hlosses hkeys
        have hskip : draft.Takes s _ := .leftOut hs (.noUsableColumns name) columns.warnings
          (losses_of_warnsOf hlosses rfl fun _ h => h)
        have habsorb : draft.absorb columns =
            { draft with warnings := draft.warnings ++ columns.warnings } := by
          rw [absorb, hkeys]
          exact congrArg (fun keys : List PendingKey => Draft.mk draft.entities keys draft.skipped
            (draft.warnings ++ columns.warnings)) (List.append_nil _)
        rwa [habsorb]
      · refine .table hs _ (losses_of_warnsOf (hlosses.trans ?_) rfl fun _ h => h) ?_
        · exact (TableDraft.warnsOf_applyConstraints _ _).mono
            WarningCause.isClauseLoss_of_isConstraintLoss
        · have hdefinition := @TableDraft.extends_definition draft.entities.length s.line
            (fun _ => True) body.splitTopLevel (fun _ _ _ _ => trivial)
            (newTable draft.entities.length s name)
          exact hdefinition.child_eq fun _ hkey => absurd hkey List.not_mem_nil

theorem takes_alterTable (draft : Draft) {s : Statement} (hs : s.createsTable = false)
    (rest : Clause) : draft.Takes s (draft.alterTable s rest) := by
  rw [alterTable]
  split
  · exact .unmatched hs _ rfl
  · next name actions _ =>
    split
    · exact .unmatched hs _ rfl
    · next index _ =>
      split
      · exact .passed hs
      · next entity hentity =>
        have hextends : TableDraft.Extends index (fun _ => True) { entity }
            (actions.splitTopLevel.foldl (TableDraft.addAction index s.line) { entity }) :=
          TableDraft.extends_addActions (fun _ _ _ _ _ _ => trivial) _
        have hlosses : TableDraft.WarnsOf WarningCause.isClauseLoss { entity }
            (actions.splitTopLevel.foldl (TableDraft.addAction index s.line) { entity }) :=
          .foldl (fun d action => TableDraft.warnsOf_addAction d action) _ _
        exact .altered hs index entity _ hentity hextends.id_eq
          (losses_of_warnsOf hlosses rfl fun _ h => h)
          (hextends.child_eq fun _ hkey => absurd hkey List.not_mem_nil)

/-- A statement that creates a table has one of three outcomes, and only such a statement has. -/
theorem takes_add (draft : Draft) (s : Statement) : draft.Takes s (draft.add s) := by
  cases hkind : s.kind with
  | createTable rest =>
      have hcreates : s.createsTable = true := by rw [Statement.createsTable, hkind]
      rw [add, hkind]
      exact draft.takes_createTable hcreates rest
  | alterTable rest =>
      have halters : s.createsTable = false := by rw [Statement.createsTable, hkind]
      rw [add, hkind]
      exact draft.takes_alterTable halters rest
  | other =>
      have hother : s.createsTable = false := by rw [Statement.createsTable, hkind]
      rw [add, hkind]
      exact .passed hother

/-! ## Tables, statements left out, and repetitions -/

/-- How many statements that create tables a draft accounts for. -/
def account (draft : Draft) : Nat :=
  draft.entities.length + draft.skipped.length +
    countLosses WarningCause.isDuplicateTable draft.warnings

variable {draft d : Draft} {s : Statement}

theorem countLosses_clauses {ws : List Warning} (h : ∀ w ∈ ws, w.cause.isClauseLoss = true) :
    countLosses WarningCause.isDuplicateTable ws = 0 :=
  countLosses_eq_zero fun w hw => WarningCause.isDuplicateTable_of_isClauseLoss (h w hw)

theorem Takes.account_eq (h : draft.Takes s d) :
    d.account = draft.account + if s.createsTable = true then 1 else 0 := by
  cases h with
  | table creates table losses _ =>
      simp only [account, absorb, countLosses_append, countLosses_clauses losses, creates, if_true,
        List.length_append, List.length_singleton]
      omega
  | leftOut creates fault ws losses =>
      simp only [account, skip, countLosses_append, countLosses_clauses losses, creates, if_true,
        List.length_append, List.length_singleton]
      omega
  | repeated creates name _ =>
      have hone : countLosses WarningCause.isDuplicateTable [⟨s.line, .duplicateTable name⟩] = 1 :=
        rfl
      simp only [account, warn, countLosses_append, hone, creates, if_true]
      omega
  | altered alters index entity table _ _ losses _ =>
      simp [account, absorb, countLosses_append, countLosses_clauses losses, alters]
  | unmatched alters cause other =>
      have hzero : countLosses WarningCause.isDuplicateTable [⟨s.line, cause⟩] = 0 :=
        countLosses_eq_zero fun w hw => by rw [List.mem_singleton.1 hw]; exact other
      simp [account, warn, countLosses_append, hzero, alters]
  | passed other => simp [other]

theorem account_foldl_add (statements : List Statement) (draft : Draft) :
    (statements.foldl add draft).account =
      draft.account + statements.countP Statement.createsTable := by
  induction statements generalizing draft with
  | nil => rfl
  | cons s rest ih =>
      rw [List.foldl_cons, ih, (draft.takes_add s).account_eq, List.countP_cons]
      omega

/-! ## Imports that fail -/

/-- The statement is left out for a fault when the draft meets it. -/
def LeavesOut (draft : Draft) (s : Statement) (fault : TableFault) : Prop :=
  (draft.add s).skipped = draft.skipped ++ [⟨s.line, fault, s.snippet⟩]

theorem Takes.skipped_kept (h : draft.Takes s d) : draft.skipped <+: d.skipped := by
  cases h with
  | leftOut => exact List.prefix_append _ _
  | _ => exact List.prefix_refl _

theorem skipped_kept_foldl_add (statements : List Statement) (draft : Draft) :
    draft.skipped <+: (statements.foldl add draft).skipped := by
  induction statements generalizing draft with
  | nil => exact List.prefix_refl _
  | cons s rest ih => exact (draft.takes_add s).skipped_kept.trans (ih _)

theorem Takes.length_le (h : draft.Takes s d) : draft.entities.length ≤ d.entities.length := by
  cases h with
  | table => simp
  | altered => simp
  | leftOut | repeated | unmatched | passed => exact Nat.le_refl _

theorem length_le_foldl_add (statements : List Statement) (draft : Draft) :
    draft.entities.length ≤ (statements.foldl add draft).entities.length := by
  induction statements generalizing draft with
  | nil => exact Nat.le_refl _
  | cons s rest ih => exact (draft.takes_add s).length_le.trans (ih _)

/-- Without tables, a statement that creates a table is left out exactly when it gives none. -/
theorem leavesOut_iff (h : draft.entities = []) (hs : s.createsTable = true) :
    (∃ fault, draft.LeavesOut s fault) ↔ (draft.add s).entities = [] := by
  have htakes := draft.takes_add s
  simp only [LeavesOut]
  generalize draft.add s = d at htakes
  cases htakes with
  | table => simp [absorb]
  | leftOut _ fault ws _ => simp [skip, h]
  | repeated _ name taken => simp [schema, h, Schema.entityNamed?] at taken
  | altered alters => simp [hs] at alters
  | unmatched alters => simp [hs] at alters
  | passed other => simp [hs] at other

theorem Takes.entities_eq_nil (h : draft.Takes s d) (hs : s.createsTable = false)
    (hnil : draft.entities = []) : d.entities = [] := by
  cases h with
  | table creates => simp [hs] at creates
  | leftOut creates => simp [hs] at creates
  | repeated creates => simp [hs] at creates
  | altered _ index entity table stands => simp [hnil] at stands
  | unmatched => exact hnil
  | passed => exact hnil

/-- All statements of a script that create tables are left out. -/
def AllLeftOut (statements : List Statement) : Prop :=
  ∀ before s after, statements = before ++ s :: after → s.createsTable = true →
    ∃ fault, (before.foldl add {}).LeavesOut s fault

/-- A script gives no table exactly when all statements that create one are left out. -/
theorem entities_eq_nil_iff (statements : List Statement) :
    (statements.foldl add {}).entities = [] ↔ AllLeftOut statements := by
  constructor
  · rintro hnil before s after rfl hs
    rw [List.foldl_append, List.foldl_cons] at hnil
    have hlater := length_le_foldl_add after ((before.foldl add {}).add s)
    have hstep := ((before.foldl add {}).takes_add s).length_le
    rw [hnil, List.length_nil, Nat.le_zero] at hlater
    rw [hlater, Nat.le_zero] at hstep
    exact (leavesOut_iff (List.length_eq_zero_iff.1 hstep) hs).2 (List.length_eq_zero_iff.1 hlater)
  · intro hall
    induction statements using List.reverseRecOn with
    | nil => rfl
    | append_singleton front s ih =>
        have hfront : AllLeftOut front := by
          rintro before t after rfl ht
          exact hall before t (after ++ [s]) (by simp) ht
        rw [List.foldl_append, List.foldl_cons, List.foldl_nil]
        cases hs : s.createsTable with
        | false => exact (takes_add _ s).entities_eq_nil hs (ih hfront)
        | true => exact (leavesOut_iff (ih hfront) hs).1 (hall front s [] rfl hs)

/-- The first statement that creates a table, with the fault for which it is left out. -/
def FirstLeftOut (statements : List Statement) (first : Skipped) : Prop :=
  ∃ before s after fault, statements = before ++ s :: after ∧ s.createsTable = true ∧
    (∀ t ∈ before, t.createsTable = false) ∧ (before.foldl add {}).LeavesOut s fault ∧
    first = ⟨s.line, fault, s.snippet⟩

theorem FirstLeftOut.exists_createsTable {statements : List Statement} {first : Skipped}
    (h : FirstLeftOut statements first) : ∃ s ∈ statements, s.createsTable = true := by
  obtain ⟨before, s, after, fault, rfl, hs, -⟩ := h
  exact ⟨s, List.mem_append_right before List.mem_cons_self, hs⟩

/-- Where no statement creates a table there is none, and nothing is left out. -/
theorem foldl_add_eq_nil {statements : List Statement}
    (h : ∀ s ∈ statements, s.createsTable = false) :
    (statements.foldl add {}).entities = [] ∧ (statements.foldl add {}).skipped = [] := by
  have haccount := account_foldl_add statements {}
  have hempty : account {} = 0 := rfl
  have hnone : statements.countP Statement.createsTable = 0 :=
    List.countP_eq_zero.2 fun s hs => Bool.eq_false_iff.1 (h s hs)
  rw [hempty, hnone, account] at haccount
  exact ⟨List.length_eq_zero_iff.1 (by omega), List.length_eq_zero_iff.1 (by omega)⟩

/-- Of the statements left out, the first one comes first. -/
theorem FirstLeftOut.head?_eq {statements : List Statement} {first : Skipped}
    (h : FirstLeftOut statements first) :
    (statements.foldl add {}).skipped.head? = some first := by
  obtain ⟨before, s, after, fault, rfl, -, hbefore, hleft, rfl⟩ := h
  obtain ⟨more, hmore⟩ := skipped_kept_foldl_add after ((before.foldl add {}).add s)
  rw [hleft, (foldl_add_eq_nil hbefore).2] at hmore
  rw [List.foldl_append, List.foldl_cons, ← hmore]
  rfl

theorem exists_firstLeftOut {statements : List Statement} (hall : AllLeftOut statements)
    (hsome : ∃ s ∈ statements, s.createsTable = true) : ∃ first, FirstLeftOut statements first := by
  obtain ⟨s, hfind⟩ := Option.isSome_iff_exists.1 (List.find?_isSome.2 hsome)
  obtain ⟨hs, before, after, hsplit, hbefore⟩ := List.find?_eq_some_iff_append.1 hfind
  obtain ⟨fault, hfault⟩ := hall before s after hsplit hs
  exact ⟨_, before, s, after, fault, hsplit, hs, fun t ht => by simpa using hbefore t ht, hfault,
    rfl⟩

/-! ## Foreign keys -/

/-- Every foreign key of the draft belongs to one of its tables. -/
def Owned (draft : Draft) : Prop :=
  ∀ key ∈ draft.pendingKeys, key.child ∈ draft.entities.map (·.id)

theorem Takes.owned (h : draft.Takes s d) (howned : draft.Owned) : d.Owned := by
  intro key hkey
  cases h with
  | table _ table _ own =>
      rw [List.map_append, List.mem_append]
      rcases List.mem_append.1 hkey with hold | hnew
      · exact .inl (howned key hold)
      · exact .inr (List.mem_singleton.2 (own key hnew))
  | altered _ index entity table stands id _ own =>
      obtain ⟨hlt, rfl⟩ := List.getElem?_eq_some_iff.1 stands
      have hids : (draft.entities.set index table.entity).map (·.id) =
          draft.entities.map (·.id) := by
        rw [List.map_set, id]
        have hsame := @List.set_getElem_self _ (draft.entities.map (·.id)) index
          (by simpa using hlt)
        rwa [List.getElem_map] at hsame
      rw [hids]
      rcases List.mem_append.1 hkey with hold | hnew
      · exact howned key hold
      · rw [own key hnew, id]
        exact List.mem_map_of_mem (List.getElem_mem hlt)
  | leftOut | repeated | unmatched | passed => exact howned key hkey

theorem owned_foldl_add (howned : draft.Owned) (statements : List Statement) :
    (statements.foldl add draft).Owned := by
  induction statements generalizing draft with
  | nil => exact howned
  | cons s rest ih => exact ih ((draft.takes_add s).owned howned)

theorem owned_script (statements : List Statement) : (statements.foldl add {}).Owned :=
  owned_foldl_add (fun _ h => absurd h List.not_mem_nil) statements

end Draft

namespace Resolution

/-- What a foreign key of a schema comes to: a relationship between its ends, one that joins them
already, or a warning. -/
inductive Settles (schema : Schema) (key : PendingKey) (r : Resolution) : Resolution → Prop where
  | joined (child : Entity) (rel : Relationship) (found : schema.entity? key.child = some child)
      (ends : key.ends schema child = .ok (rel.parent, rel.child))
      (new : ∀ old ∈ r.relationships, ¬(old.parent = rel.parent ∧ old.child = rel.child)) :
      Settles schema key r { r with relationships := r.relationships ++ [rel] }
  | repeated (child : Entity) (rel : Relationship) (found : schema.entity? key.child = some child)
      (ends : key.ends schema child = .ok (rel.parent, rel.child))
      (old : rel ∈ r.relationships) : Settles schema key r r
  | warned (cause : WarningCause) (loss : cause.isKeyLoss = true) :
      Settles schema key r { r with warnings := r.warnings ++ [⟨key.line, cause⟩] }

theorem isKeyLoss_of_ends {schema : Schema} {key : PendingKey} {child : Entity}
    {cause : WarningCause} (h : key.ends schema child = .error cause) :
    cause.isKeyLoss = true := by
  rw [PendingKey.ends] at h
  split at h
  · obtain rfl := Except.error.inj h
    rfl
  · split at h
    · obtain rfl := Except.error.inj h
      rfl
    · split at h
      · obtain rfl := Except.error.inj h
        rfl
      · cases h

/-- A foreign key of a table that is there has one of three outcomes. -/
theorem settles_add {schema : Schema} {key : PendingKey}
    (h : (schema.entity? key.child).isSome = true) (r : Resolution) :
    r.Settles schema key (r.add schema key) := by
  rw [add]
  split
  · next hnone => simp [hnone] at h
  · next child hchild =>
    split
    · next cause hends => exact .warned cause (isKeyLoss_of_ends hends)
    · next parentEnd childEnd hends =>
      rw [connect]
      split
      · next hjoins =>
        obtain ⟨rel, hrel, hsame⟩ := List.any_eq_true.1 hjoins
        rw [Bool.and_eq_true, beq_iff_eq, beq_iff_eq] at hsame
        obtain ⟨rfl, rfl⟩ := hsame
        exact .repeated child rel hchild hends hrel
      · next hjoins =>
        refine .joined child _ hchild hends fun old hold hsame => hjoins ?_
        refine List.any_eq_true.2 ⟨old, hold, ?_⟩
        rw [Bool.and_eq_true, beq_iff_eq, beq_iff_eq]
        exact hsame

theorem Settles.warnings_eq {schema : Schema} {key : PendingKey} {r r' : Resolution}
    (h : r.Settles schema key r') : countLosses WarningCause.isDuplicateTable r'.warnings =
      countLosses WarningCause.isDuplicateTable r.warnings := by
  cases h with
  | joined => rfl
  | repeated => rfl
  | warned cause loss =>
      have hother := WarningCause.isDuplicateTable_of_isKeyLoss loss
      have hzero : countLosses WarningCause.isDuplicateTable [⟨key.line, cause⟩] = 0 :=
        countLosses_eq_zero fun w hw => by rw [List.mem_singleton.1 hw]; exact hother
      rw [countLosses_append, hzero, Nat.add_zero]

theorem warnings_foldl_add {schema : Schema} {keys : List PendingKey}
    (h : ∀ key ∈ keys, (schema.entity? key.child).isSome = true) (r : Resolution) :
    countLosses WarningCause.isDuplicateTable (keys.foldl (add schema) r).warnings =
      countLosses WarningCause.isDuplicateTable r.warnings := by
  induction keys generalizing r with
  | nil => rfl
  | cons key rest ih =>
      have hfirst := settles_add (h key List.mem_cons_self) r
      rw [List.foldl_cons, ih fun k hk => h k (List.mem_cons_of_mem key hk), hfirst.warnings_eq]

end Resolution

namespace Draft

variable {draft : Draft} {s : Statement} {name : String} {body : Clause} {e : Entity}

/-- The table of a foreign key is there. -/
theorem Owned.entity?_isSome (h : draft.Owned) {key : PendingKey} (hkey : key ∈ draft.pendingKeys) :
    (draft.schema.entity? key.child).isSome = true := by
  obtain ⟨e, he, hid⟩ := List.mem_map.1 (h key hkey)
  rw [Schema.entity?, List.find?_isSome]
  exact ⟨e, he, beq_iff_eq.2 hid⟩

/-! ## The body of a table -/

/-- The next table of a draft, with the columns that clauses define. -/
def columnsOf (draft : Draft) (s : Statement) (name : String) (clauses : List Clause) :
    TableDraft :=
  (newTable draft.entities.length s name).addColumns draft.entities.length s.line clauses

/-- The next table of a draft, with all that clauses define. -/
def tableOf (draft : Draft) (s : Statement) (name : String) (clauses : List Clause) : TableDraft :=
  (draft.columnsOf s name clauses).applyConstraints s.line clauses

/-- Every clause of a body has a part in the table `e` that a statement gives, or in the warnings
about it. -/
structure GivesTable (draft : Draft) (s : Statement) (name : String) (body : Clause) (e : Entity) :
    Prop where
  clauses : ∀ front clause back, body.splitTopLevel = front ++ clause :: back →
    TableDraft.ReadsClause s.line clause (draft.columnsOf s name front)
      (draft.columnsOf s name (front ++ [clause]))
  fields : e.fields.map (·.name) =
    (draft.columnsOf s name body.splitTopLevel).entity.fields.map (·.name)
  warnings : ∃ ws : List Warning, (∀ w ∈ ws, w.cause.isConstraintLoss = true) ∧
    (draft.add s).warnings =
      draft.warnings ++ (draft.columnsOf s name body.splitTopLevel).warnings ++ ws
  total : e.fields.length + countLosses WarningCause.isColumnLoss (draft.add s).warnings =
    countLosses WarningCause.isColumnLoss draft.warnings +
      body.splitTopLevel.countP fun clause => (TableConstraint.ofClause? clause).isNone

theorem add_of_header? (hs : s.header? = some (.ok (name, body))) :
    draft.add s = draft.addTable s name body := by
  rw [Statement.header?] at hs
  rw [add]
  split at hs
  · next rest hkind =>
    rw [hkind]
    dsimp only
    rw [createTable, Option.some.inj hs]
  · cases hs

/-- A body gives a table in one way. -/
theorem addTable_eq (he : (draft.addTable s name body).entities = draft.entities ++ [e]) :
    (draft.tableOf s name body.splitTopLevel).entity = e ∧
      (draft.addTable s name body).warnings =
        draft.warnings ++ (draft.tableOf s name body.splitTopLevel).warnings := by
  rw [addTable] at he ⊢
  split at he
  · exact absurd he (by simp [warn])
  · next hnew =>
    rw [if_neg hnew]
    dsimp only at he ⊢
    split at he
    · exact absurd he (by simp [skip, absorb])
    · next hsome =>
      rw [if_neg hsome]
      exact ⟨List.singleton_inj.1 (List.append_cancel_left he), rfl⟩

theorem givesTable (hs : s.header? = some (.ok (name, body)))
    (he : (draft.add s).entities = draft.entities ++ [e]) : draft.GivesTable s name body e := by
  rw [add_of_header? hs] at he
  obtain ⟨rfl, hwarnings⟩ := addTable_eq he
  rw [← add_of_header? hs] at hwarnings
  have hnames : (draft.tableOf s name body.splitTopLevel).entity.fields.map (·.name) =
      (draft.columnsOf s name body.splitTopLevel).entity.fields.map (·.name) :=
    TableDraft.map_fields_applyConstraints ⟨fun _ => rfl, fun _ => rfl⟩ _ _
  obtain ⟨ws, hws, hlosses⟩ : TableDraft.WarnsOf WarningCause.isConstraintLoss
      (draft.columnsOf s name body.splitTopLevel) (draft.tableOf s name body.splitTopLevel) :=
    TableDraft.warnsOf_applyConstraints _ _
  rw [hws, ← List.append_assoc] at hwarnings
  refine ⟨fun front clause _ _ => TableDraft.readsClause_addColumns front clause _, hnames,
    ⟨ws, hlosses, hwarnings⟩, ?_⟩
  have hcolumns : (draft.columnsOf s name body.splitTopLevel).entity.fields.length +
      countLosses WarningCause.isColumnLoss
        (draft.columnsOf s name body.splitTopLevel).warnings =
      0 + 0 + body.splitTopLevel.countP fun clause => (TableConstraint.ofClause? clause).isNone :=
    TableDraft.columns_add_losses _ _
  have hlength := congrArg List.length hnames
  have hother : countLosses WarningCause.isColumnLoss ws = 0 := countLosses_eq_zero fun w hw =>
    WarningCause.isColumnLoss_of_isConstraintLoss (hlosses w hw)
  rw [List.length_map, List.length_map] at hlength
  rw [hwarnings, countLosses_append, countLosses_append, hother, hlength]
  omega

end Draft

/-! ## The whole script -/

/-- Nothing in the statements of a script is lost when they are imported. -/
structure Accounted (statements : List Statement) : Prop where
  noTables : importStatements statements = .error .noTables ↔
    ∀ s ∈ statements, s.createsTable = false
  allSkipped : (∃ first, importStatements statements = .error (.allSkipped first)) ↔
    (∃ s ∈ statements, s.createsTable = true) ∧ Draft.AllLeftOut statements
  first : ∀ first, importStatements statements = .error (.allSkipped first) →
    Draft.FirstLeftOut statements first
  failures : ∀ error, importStatements statements = .error error →
    error = .noTables ∨ ∃ first, error = .allSkipped first
  tables : ∀ report, importStatements statements = .ok report →
    statements.countP Statement.createsTable = report.schema.entities.length +
      report.skipped.length + countLosses WarningCause.isDuplicateTable report.warnings
  bodies : ∀ before s after name body e, statements = before ++ s :: after →
    s.header? = some (.ok (name, body)) →
    ((before.foldl Draft.add {}).add s).entities = (before.foldl Draft.add {}).entities ++ [e] →
    (before.foldl Draft.add {}).GivesTable s name body e
  keys : ∀ front key back,
    (statements.foldl Draft.add {}).pendingKeys = front ++ key :: back →
    let schema := (statements.foldl Draft.add {}).schema
    Resolution.Settles schema key (front.foldl (Resolution.add schema) {})
      ((front ++ [key]).foldl (Resolution.add schema) {})
  report : ∀ report, importStatements statements = .ok report →
    let draft := statements.foldl Draft.add {}
    report.schema = Schema.syncForeignKeys ⟨draft.entities, draft.resolution.relationships⟩ ∧
      report.schema.relationships = draft.resolution.relationships ∧
      report.skipped = draft.skipped ∧
      report.warnings = draft.warnings ++ draft.resolution.warnings

/-- Why a draft without tables gives no schema. -/
def Draft.failure (draft : Draft) : ImportError :=
  match draft.skipped.head? with
  | none => .noTables
  | some first => .allSkipped first

theorem Draft.finish_eq_error_iff {draft : Draft} {error : ImportError} :
    draft.finish = .error error ↔ draft.entities = [] ∧ error = draft.failure := by
  by_cases hnil : draft.entities = []
  · have hfinish : draft.finish = .error draft.failure := by
      rw [finish, failure, hnil]
      cases draft.skipped with
      | nil => rfl
      | cons first rest => rfl
    rw [hfinish]
    exact ⟨fun h => ⟨hnil, (Except.error.inj h).symm⟩, fun h => congrArg _ h.2.symm⟩
  · rw [Draft.finish_eq hnil]
    constructor
    · intro h
      cases h
    · exact fun h => absurd h.1 hnil

/-- The schema, what was left out, and the warnings of an import that succeeds. -/
theorem Draft.report_of_finish {draft : Draft} {report : ImportReport}
    (h : draft.finish = .ok report) :
    report.schema = Schema.syncForeignKeys ⟨draft.entities, draft.resolution.relationships⟩ ∧
      report.schema.relationships = draft.resolution.relationships ∧
      report.skipped = draft.skipped ∧
      report.warnings = draft.warnings ++ draft.resolution.warnings := by
  rw [Draft.finish_eq (Draft.of_finish h).1] at h
  obtain rfl := Except.ok.inj h
  exact ⟨rfl, Schema.relationships_syncForeignKeys _, rfl, rfl⟩

variable (statements : List Statement)

/-- An import fails where no statement creates a table, or where all that do are left out. -/
theorem importStatements_eq_error_iff {error : ImportError} :
    importStatements statements = .error error ↔
      (error = .noTables ∧ ∀ s ∈ statements, s.createsTable = false) ∨
        ∃ first, error = .allSkipped first ∧ Draft.FirstLeftOut statements first ∧
          Draft.AllLeftOut statements := by
  rw [importStatements, Draft.finish_eq_error_iff]
  constructor
  · rintro ⟨hnil, rfl⟩
    have hall := (Draft.entities_eq_nil_iff statements).1 hnil
    by_cases hsome : ∃ s ∈ statements, s.createsTable = true
    · obtain ⟨first, hfirst⟩ := Draft.exists_firstLeftOut hall hsome
      exact .inr ⟨first, by rw [Draft.failure, hfirst.head?_eq], hfirst, hall⟩
    · have hnone : ∀ s ∈ statements, s.createsTable = false := fun s hs =>
        Bool.eq_false_iff.2 fun h => hsome ⟨s, hs, h⟩
      exact .inl ⟨by rw [Draft.failure, (Draft.foldl_add_eq_nil hnone).2]; rfl, hnone⟩
  · rintro (⟨rfl, hnone⟩ | ⟨first, rfl, hfirst, hall⟩)
    · obtain ⟨hnil, hskipped⟩ := Draft.foldl_add_eq_nil hnone
      exact ⟨hnil, by rw [Draft.failure, hskipped]; rfl⟩
    · exact ⟨(Draft.entities_eq_nil_iff statements).2 hall, by
        rw [Draft.failure, hfirst.head?_eq]⟩

/-- Of the statements that create tables, each has its place in the report. -/
theorem countP_createsTable {report : ImportReport}
    (h : importStatements statements = .ok report) :
    statements.countP Statement.createsTable = report.schema.entities.length +
      report.skipped.length + countLosses WarningCause.isDuplicateTable report.warnings := by
  obtain ⟨hschema, -, hskipped, hwarnings⟩ := Draft.report_of_finish h
  have haccount := Draft.account_foldl_add statements {}
  have hempty : Draft.account {} = 0 := rfl
  have hkeys : countLosses WarningCause.isDuplicateTable
      (statements.foldl Draft.add {}).resolution.warnings = 0 :=
    Resolution.warnings_foldl_add
      (fun _ hkey => (Draft.owned_script statements).entity?_isSome hkey) {}
  have hlength := congrArg (fun s : Schema => s.entities.length) (congrArg Schema.bare hschema)
  simp only [Schema.bare_syncForeignKeys, Schema.bare_entities, List.length_map] at hlength
  rw [Draft.account] at haccount
  rw [hlength, hskipped, hwarnings, countLosses_append, hkeys]
  omega

/-- An import loses nothing silently, and fails only when no table is left. -/
theorem importStatements_accounts : Accounted statements := by
  have herrors := @importStatements_eq_error_iff statements
  constructor
  case noTables =>
    rw [herrors]
    constructor
    · rintro (⟨-, hnone⟩ | ⟨first, hcause, -⟩)
      · exact hnone
      · cases hcause
    · exact fun hnone => .inl ⟨rfl, hnone⟩
  case allSkipped =>
    constructor
    · rintro ⟨first, herror⟩
      rcases herrors.1 herror with ⟨hcause, -⟩ | ⟨other, -, hleft, hall⟩
      · cases hcause
      · exact ⟨hleft.exists_createsTable, hall⟩
    · rintro ⟨hsome, hall⟩
      obtain ⟨first, hfirst⟩ := Draft.exists_firstLeftOut hall hsome
      exact ⟨first, herrors.2 (.inr ⟨first, rfl, hfirst, hall⟩)⟩
  case first =>
    intro first herror
    rcases herrors.1 herror with ⟨hcause, -⟩ | ⟨other, hcause, hleft, -⟩
    · cases hcause
    · rwa [ImportError.allSkipped.inj hcause]
  case failures =>
    intro error herror
    rcases herrors.1 herror with ⟨hcause, -⟩ | ⟨first, hcause, -⟩
    · exact .inl hcause
    · exact .inr ⟨first, hcause⟩
  case tables => exact fun report hreport => countP_createsTable statements hreport
  case bodies =>
    rintro before s after name body e - hs he
    exact Draft.givesTable hs he
  case keys =>
    intro front key back hsplit
    dsimp only
    rw [List.foldl_append]
    exact Resolution.settles_add
      ((Draft.owned_script statements).entity?_isSome (by rw [hsplit]; simp)) _
  case report => exact fun report hreport => Draft.report_of_finish hreport

end Ddl

end EntityRelation
