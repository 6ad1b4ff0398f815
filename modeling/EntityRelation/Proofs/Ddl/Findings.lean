import EntityRelation.Proofs.Ddl.ScriptTables

/-!
# What becomes of a clause

A clause of a table body is a constraint, or it gives a column, or it gives a warning about the
column that is missing (`readsClause_addColumns`); constraints neither give nor take columns. So the
columns of a table and the warnings about missing ones add up to the clauses that define columns
(`columns_add_losses`).
-/

namespace EntityRelation

namespace Ddl

namespace WarningCause

/-- Whether a column definition has given no column. -/
def isColumnLoss : WarningCause → Bool
  | columnSkipped _ _ | duplicateColumn _ _ => true
  | _ => false

/-- Whether a constraint, or a part of it, has had no effect. -/
def isConstraintLoss : WarningCause → Bool
  | unknownKeyColumn _ _ | foreignKeyWithoutTable _ => true
  | _ => false

/-- Whether a foreign key has given no relationship. -/
def isKeyLoss : WarningCause → Bool
  | foreignKeyOnUnknownColumn _ _ | foreignKeyToUnknownTable _ _ _
  | foreignKeyToUnknownColumn _ _ _ => true
  | _ => false

/-- Whether a table has been defined again. -/
def isDuplicateTable : WarningCause → Bool
  | duplicateTable _ => true
  | _ => false

/-- Whether the cause lies in a clause of a table. -/
def isClauseLoss (cause : WarningCause) : Bool :=
  cause.isColumnLoss || cause.isConstraintLoss

theorem isClauseLoss_of_isColumnLoss (cause : WarningCause) (h : cause.isColumnLoss = true) :
    cause.isClauseLoss = true :=
  Bool.or_eq_true_iff.2 (.inl h)

theorem isClauseLoss_of_isConstraintLoss (cause : WarningCause)
    (h : cause.isConstraintLoss = true) : cause.isClauseLoss = true :=
  Bool.or_eq_true_iff.2 (.inr h)

theorem isDuplicateTable_of_isClauseLoss {cause : WarningCause} (h : cause.isClauseLoss = true) :
    cause.isDuplicateTable = false := by
  cases cause with
  | duplicateTable table => cases h
  | _ => rfl

theorem isDuplicateTable_of_isKeyLoss {cause : WarningCause} (h : cause.isKeyLoss = true) :
    cause.isDuplicateTable = false := by
  cases cause with
  | duplicateTable table => cases h
  | _ => rfl

theorem isColumnLoss_of_isConstraintLoss {cause : WarningCause}
    (h : cause.isConstraintLoss = true) : cause.isColumnLoss = false := by
  cases cause with
  | columnSkipped table fault => cases h
  | duplicateColumn table column => cases h
  | _ => rfl

end WarningCause

/-- How many warnings have a cause of a kind. -/
def countLosses (kind : WarningCause → Bool) (ws : List Warning) : Nat :=
  ws.countP fun w => kind w.cause

theorem countLosses_append (kind : WarningCause → Bool) (ws vs : List Warning) :
    countLosses kind (ws ++ vs) = countLosses kind ws + countLosses kind vs :=
  List.countP_append

theorem countLosses_eq_zero {kind : WarningCause → Bool} {ws : List Warning}
    (h : ∀ w ∈ ws, kind w.cause = false) : countLosses kind ws = 0 :=
  List.countP_eq_zero.2 fun w hw => by rw [h w hw]; exact Bool.false_ne_true

namespace TableDraft

/-- The warnings about a table have grown, if at all, by causes of one kind. -/
def WarnsOf (kind : WarningCause → Bool) (d d' : TableDraft) : Prop :=
  ∃ ws : List Warning, d'.warnings = d.warnings ++ ws ∧ ∀ w ∈ ws, kind w.cause = true

namespace WarnsOf

variable {kind kind' : WarningCause → Bool} {d d' d'' : TableDraft}

theorem of_eq (h : d'.warnings = d.warnings) : WarnsOf kind d d' :=
  ⟨[], by rw [h, List.append_nil], fun _ hw => absurd hw List.not_mem_nil⟩

theorem warn {cause : WarningCause} (h : kind cause = true) (line : Nat) :
    WarnsOf kind d (d.warn line cause) := by
  refine ⟨[⟨line, cause⟩], rfl, fun w hw => ?_⟩
  rw [List.mem_singleton.1 hw]
  exact h

theorem trans (h : WarnsOf kind d d') (h' : WarnsOf kind d' d'') : WarnsOf kind d d'' := by
  obtain ⟨ws, hws, hkind⟩ := h
  obtain ⟨vs, hvs, hkind'⟩ := h'
  exact ⟨ws ++ vs, by rw [hvs, hws, List.append_assoc], List.forall_mem_append.2 ⟨hkind, hkind'⟩⟩

theorem mono (h : WarnsOf kind d d') (hkind : ∀ cause, kind cause = true → kind' cause = true) :
    WarnsOf kind' d d' := by
  obtain ⟨ws, hws, hall⟩ := h
  exact ⟨ws, hws, fun w hw => hkind _ (hall w hw)⟩

theorem foldl {β : Type} {step : TableDraft → β → TableDraft}
    (hstep : ∀ d b, WarnsOf kind d (step d b)) (bs : List β) (d : TableDraft) :
    WarnsOf kind d (bs.foldl step d) := by
  induction bs generalizing d with
  | nil => exact of_eq rfl
  | cons b bs ih => exact (hstep d b).trans (ih _)

end WarnsOf

/-! ## Clauses that define columns -/

/-- What reading a clause of a table body comes to: nothing yet for a constraint, which waits until
all columns are there; otherwise one more column, or one more warning about a missing column. -/
inductive ReadsClause (line : Nat) (clause : Clause) (d : TableDraft) : TableDraft → Prop where
  | constraint (states : (TableConstraint.ofClause? clause).isSome = true) :
      ReadsClause line clause d d
  | column {d' : TableDraft} (defines : TableConstraint.ofClause? clause = none) (f : Field)
      (entity : d'.entity = { d.entity with fields := d.entity.fields ++ [f] })
      (warnings : d'.warnings = d.warnings) : ReadsClause line clause d d'
  | warning (defines : TableConstraint.ofClause? clause = none) (cause : WarningCause)
      (loss : cause.isColumnLoss = true) : ReadsClause line clause d (d.warn line cause)

variable {index line : Nat} {clause : Clause} {d : TableDraft}

/-- A column definition gives a column or a warning. -/
theorem addColumn_cases (clause : Clause) (d : TableDraft) :
    (∃ f, (d.addColumn index line clause).entity =
          { d.entity with fields := d.entity.fields ++ [f] } ∧
        (d.addColumn index line clause).warnings = d.warnings) ∨
      ∃ cause, cause.isColumnLoss = true ∧ d.addColumn index line clause = d.warn line cause := by
  rw [addColumn]
  split
  · exact .inr ⟨_, rfl, rfl⟩
  · next column _ =>
    split
    · exact .inr ⟨_, rfl, rfl⟩
    · split
      · exact .inl ⟨column.toField (nextFieldId index d.entity), rfl, rfl⟩
      · exact .inl ⟨column.toField (nextFieldId index d.entity), rfl, rfl⟩

theorem warnsOf_addColumn (clause : Clause) (d : TableDraft) :
    WarnsOf WarningCause.isColumnLoss d (d.addColumn index line clause) := by
  rcases addColumn_cases clause d with ⟨f, -, hwarnings⟩ | ⟨cause, hloss, hwarn⟩
  · exact .of_eq hwarnings
  · rw [hwarn]
    exact .warn hloss line

/-- The next clause of a table body does one of three things. -/
theorem readsClause_addColumns (front : List Clause) (clause : Clause) (d : TableDraft) :
    ReadsClause line clause (d.addColumns index line front)
      (d.addColumns index line (front ++ [clause])) := by
  cases h : TableConstraint.ofClause? clause with
  | none =>
      have hstep : d.addColumns index line (front ++ [clause]) =
          (d.addColumns index line front).addColumn index line clause := by
        simp [addColumns, h]
      rw [hstep]
      rcases addColumn_cases clause (d.addColumns index line front) with
        ⟨f, hentity, hwarnings⟩ | ⟨cause, hloss, hwarn⟩
      · exact .column h f hentity hwarnings
      · rw [hwarn]
        exact .warning h cause hloss
  | some constraint =>
      have hsame : d.addColumns index line (front ++ [clause]) = d.addColumns index line front := by
        simp [addColumns, h]
      rw [hsame]
      exact .constraint (by rw [h]; rfl)

/-- Columns and warnings about missing ones add up to the clauses that define columns. -/
theorem columns_add_losses (clauses : List Clause) (d : TableDraft) :
    (d.addColumns index line clauses).entity.fields.length +
        countLosses WarningCause.isColumnLoss (d.addColumns index line clauses).warnings =
      d.entity.fields.length + countLosses WarningCause.isColumnLoss d.warnings +
        clauses.countP fun clause => (TableConstraint.ofClause? clause).isNone := by
  induction clauses using List.reverseRecOn with
  | nil => rfl
  | append_singleton front clause ih =>
      have hread := @readsClause_addColumns index line front clause d
      generalize d.addColumns index line front = before at ih hread
      generalize d.addColumns index line (front ++ [clause]) = after at hread ⊢
      rw [List.countP_append, List.countP_singleton, ← Nat.add_assoc, ← ih]
      cases hread with
      | constraint states =>
          rw [← Option.not_isNone, Bool.not_eq_true'] at states
          rw [states]
          rfl
      | column defines f entity warnings =>
          rw [defines, entity, warnings, List.length_append]
          simp only [List.length_singleton, Option.isNone_none, if_true]
          omega
      | warning defines cause loss =>
          rw [defines, warn, countLosses_append, countLosses, countLosses, List.countP_singleton,
            loss]
          simp only [Option.isNone_none, if_true]
          omega

theorem warnsOf_addColumns (clauses : List Clause) (d : TableDraft) :
    WarnsOf WarningCause.isColumnLoss d (d.addColumns index line clauses) :=
  .foldl (fun d clause => warnsOf_addColumn clause d) _ d

/-! ## Clauses that state constraints -/

theorem warnings_addKeys (keys : List PendingKey) (d : TableDraft) :
    (keys.foldl addKey d).warnings = d.warnings := by
  induction keys generalizing d with
  | nil => rfl
  | cons key keys ih => exact ih _

theorem entity_addKeys (keys : List PendingKey) (d : TableDraft) :
    (keys.foldl addKey d).entity = d.entity := by
  induction keys generalizing d with
  | nil => rfl
  | cons key keys ih => exact ih _

theorem warnsOf_applyConstraint (d : TableDraft) (constraint : TableConstraint) :
    WarnsOf WarningCause.isConstraintLoss d (d.applyConstraint line constraint) := by
  have hmark : ∀ (d : TableDraft) (name : String),
      WarnsOf WarningCause.isConstraintLoss d (d.markPrimaryKey line name) := by
    intro d name
    rw [markPrimaryKey]
    split
    · exact .of_eq rfl
    · exact .warn rfl line
  cases constraint with
  | primaryKey columns => exact .foldl hmark columns d
  | foreignKey columns table referenced =>
      cases table with
      | none => exact .warn rfl line
      | some table => exact .of_eq (warnings_addKeys _ d)
  | unique columns =>
      cases columns with
      | nil => exact .of_eq rfl
      | cons name more =>
          cases more with
          | nil => exact .of_eq rfl
          | cons _ _ => exact .of_eq rfl
  | ignored => exact .of_eq rfl

theorem warnsOf_applyConstraints (clauses : List Clause) (d : TableDraft) :
    WarnsOf WarningCause.isConstraintLoss d (d.applyConstraints line clauses) :=
  .foldl warnsOf_applyConstraint _ d

/-- What constraints do not change in a field: nothing but two flags is ever set. -/
structure Unflagged {β : Type} (g : Field → β) : Prop where
  isPrimaryKey : ∀ f : Field, g { f with isPrimaryKey := true } = g f
  isUnique : ∀ f : Field, g { f with isUnique := true } = g f

variable {β : Type} {g : Field → β}

/-- Constraints neither give nor take columns, and set nothing but flags. -/
theorem map_fields_applyConstraint (hg : Unflagged g) (d : TableDraft)
    (constraint : TableConstraint) :
    (d.applyConstraint line constraint).entity.fields.map g = d.entity.fields.map g := by
  cases constraint with
  | primaryKey columns =>
      rw [applyConstraint]
      induction columns generalizing d with
      | nil => rfl
      | cons name more ih =>
          rw [List.foldl_cons, ih, markPrimaryKey]
          split
          · exact map_updateFirst _ (fun field : Field => { field with isPrimaryKey := true }) g
              hg.isPrimaryKey d.entity.fields
          · rfl
  | foreignKey columns table referenced =>
      cases table with
      | none => rfl
      | some table => rw [applyConstraint, entity_addKeys]
  | unique columns =>
      cases columns with
      | nil => rfl
      | cons name more =>
          cases more with
          | nil =>
              exact map_updateFirst _ (fun field : Field => { field with isUnique := true }) g
                hg.isUnique d.entity.fields
          | cons _ _ => rfl
  | ignored => rfl

theorem map_fields_applyConstraints (hg : Unflagged g) (clauses : List Clause) (d : TableDraft) :
    (d.applyConstraints line clauses).entity.fields.map g = d.entity.fields.map g := by
  rw [applyConstraints]
  generalize clauses.filterMap TableConstraint.ofClause? = constraints
  induction constraints generalizing d with
  | nil => rfl
  | cons constraint more ih => rw [List.foldl_cons, ih, map_fields_applyConstraint hg]

/-! ## Alterations -/

theorem warnsOf_addAction (d : TableDraft) (action : Clause) :
    WarnsOf WarningCause.isClauseLoss d (d.addAction index line action) := by
  rw [addAction]
  split
  · exact .of_eq rfl
  · split
    · exact (warnsOf_applyConstraint d _).mono WarningCause.isClauseLoss_of_isConstraintLoss
    · exact (warnsOf_addColumn _ d).mono WarningCause.isClauseLoss_of_isColumnLoss

end TableDraft

end Ddl

end EntityRelation
