import EntityRelation.Proofs.Ddl.GainedKeys
import EntityRelation.Proofs.Ddl.Numbering

/-!
# Tables that gain a foreign key

A table that stands keeps its name and its id through all later statements
(`Draft.headings_add`). So "the draft has gained a foreign key of the table `t`" can be said of any
two drafts in which `t` stands (`Draft.GainsKey`), and once it holds it holds to the end of the
script. It comes about where the definition of the table says more (`Draft.gainsKey_of_header?`), or
an alteration does (`Draft.gainsKey_of_tables`).
-/

namespace EntityRelation

namespace Ddl

variable {name t c : String} {target : ForeignTarget}

/-! ## Tables that stand -/

namespace Draft

/-- The names and ids of the tables of a draft. -/
def headings (d : Draft) : List (String × EntityId) :=
  d.entities.map fun e => (e.name, e.id)

/-- The id of the table of a name. -/
def idNamed? (d : Draft) (name : String) : Option EntityId :=
  (d.headings.find? fun heading => Text.sameName heading.1 name).map Prod.snd

theorem idNamed?_eq (d : Draft) (name : String) :
    d.idNamed? name = (d.schema.entityNamed? name).map (·.id) := by
  rw [idNamed?, headings, List.find?_map, Option.map_map]
  rfl

theorem headings_set {d : Draft} {index : Nat} {e e' : Entity} (he : d.entities[index]? = some e)
    (hname : e'.name = e.name) (hid : e'.id = e.id) :
    (d.entities.set index e').map (fun e => (e.name, e.id)) = d.headings := by
  obtain ⟨hlt, rfl⟩ := List.getElem?_eq_some_iff.1 he
  have hsame := @List.set_getElem_self _ d.headings index (by simpa [headings] using hlt)
  rw [List.map_set, hname, hid]
  simpa [headings] using hsame

/-- A table that stands keeps its name and its id. -/
theorem headings_add (d : Draft) (s : Statement) : d.headings <+: (d.add s).headings := by
  rw [add]
  split
  · next rest _ =>
    rw [createTable]
    split
    · exact List.prefix_refl _
    · rw [addTable]
      split
      · exact List.prefix_refl _
      · dsimp only
        split
        · exact List.prefix_refl _
        · rw [headings, headings, List.map_append]
          exact List.prefix_append _ _
  · next rest _ =>
    rw [alterTable]
    split
    · exact List.prefix_refl _
    · next name actions hname =>
      split
      · exact List.prefix_refl _
      · next index hindex =>
        split
        · exact List.prefix_refl _
        · next entity hentity =>
          have htable : TableDraft.Extends index (fun _ => True) { entity }
              (actions.splitTopLevel.foldl (TableDraft.addAction index s.line) { entity }) :=
            TableDraft.extends_addActions (fun _ _ _ _ _ _ => trivial) _
          generalize actions.splitTopLevel.foldl (TableDraft.addAction index s.line)
            { entity } = table at htable ⊢
          have hsame : headings { d.absorb table with
              entities := d.entities.set index table.entity } = d.headings :=
            headings_set hentity htable.name_eq htable.id_eq
          rw [hsame]
  · exact List.prefix_refl _

theorem idNamed?_foldl_add {d : Draft} {name : String} {id : EntityId}
    (h : d.idNamed? name = some id) (statements : List Statement) :
    (statements.foldl add d).idNamed? name = some id := by
  induction statements generalizing d with
  | nil => exact h
  | cons s rest ih =>
      refine ih ?_
      obtain ⟨more, hmore⟩ := d.headings_add s
      obtain ⟨heading, hfind, hid⟩ := Option.map_eq_some_iff.1 h
      rw [idNamed?, ← hmore, List.find?_append, hfind, Option.some_or, Option.map_some, hid]

theorem Gains.idNamed?_eq {own : PendingKey → Bool} {d d' : Draft} (h : d.Gains own d')
    (name : String) : d'.idNamed? name = d.idNamed? name := by
  rw [idNamed?, idNamed?, headings, headings, h.entities]

/-- The draft has gained a foreign key of the column to the target. -/
def GainsKey (t c : String) (target : ForeignTarget) (d d' : Draft) : Prop :=
  ∃ id, d.idNamed? t = some id ∧ d.Gains (PendingKey.isTo id c target) d'

variable {d d' d'' : Draft}

theorem GainsKey.trans (h : d.GainsKey t c target d') (h' : d'.GainsKey t c target d'') :
    d.GainsKey t c target d'' := by
  obtain ⟨id, hid, hgains⟩ := h
  obtain ⟨id', hid', hgains'⟩ := h'
  rw [hgains.idNamed?_eq, hid] at hid'
  obtain rfl := Option.some.inj hid'
  exact ⟨id, hid, hgains.trans hgains'⟩

theorem GainsKey.foldl_add (h : d.GainsKey t c target d') (statements : List Statement) :
    (statements.foldl add d).GainsKey t c target (statements.foldl add d') := by
  obtain ⟨id, hid, hgains⟩ := h
  exact ⟨id, idNamed?_foldl_add hid statements, hgains.foldl_add statements⟩

end Draft

/-! ## The clauses of a definition -/

namespace TableDraft

variable {index line : Nat} {clause : Clause}

theorem addColumns_insert (h : TableConstraint.ofClause? clause = none) (d : TableDraft)
    (clauses clauses' : List Clause) :
    d.addColumns index line (clauses ++ clause :: clauses') =
      ((d.addColumns index line clauses).addColumn index line clause).addColumns index line
        clauses' := by
  simp [addColumns, h]

theorem applyConstraints_insert (h : TableConstraint.ofClause? clause = none) (d : TableDraft)
    (clauses clauses' : List Clause) :
    d.applyConstraints line (clauses ++ clause :: clauses') =
      d.applyConstraints line (clauses ++ clauses') := by
  simp [applyConstraints, h]

variable {constraint : TableConstraint}

theorem addColumns_concat (h : TableConstraint.ofClause? clause = some constraint)
    (d : TableDraft) (clauses : List Clause) :
    d.addColumns index line (clauses ++ [clause]) = d.addColumns index line clauses := by
  simp [addColumns, h]

theorem applyConstraints_concat (h : TableConstraint.ofClause? clause = some constraint)
    (d : TableDraft) (clauses : List Clause) :
    d.applyConstraints line (clauses ++ [clause]) =
      (d.applyConstraints line clauses).applyConstraint line constraint := by
  simp [applyConstraints, h]

end TableDraft

namespace Draft

variable {d : Draft} {s s' : Statement} {body body' : Clause}

theorem id_columnsOf (d : Draft) (s : Statement) (name : String) (clauses : List Clause) :
    (d.columnsOf s name clauses).entity.id = entityIdAt d.entities.length := by
  have hextends : TableDraft.Extends d.entities.length (fun _ => True)
      (newTable d.entities.length s name) (d.columnsOf s name clauses) :=
    TableDraft.extends_addColumns (fun _ _ _ _ => trivial) _
  exact hextends.id_eq

theorem name_tableOf (d : Draft) (s : Statement) (name : String) (clauses : List Clause) :
    (d.tableOf s name clauses).entity.name = name ∧
      (d.tableOf s name clauses).entity.id = entityIdAt d.entities.length := by
  have hextends : TableDraft.Extends d.entities.length (fun _ => True)
      (newTable d.entities.length s name) (d.tableOf s name clauses) :=
    TableDraft.extends_definition (fun _ _ _ _ => trivial) _
  exact ⟨hextends.name_eq, hextends.id_eq⟩

/-- A definition is read by the line and the comments of its statement. -/
theorem columnsOf_congr (hline : s'.line = s.line) (hcomments : s'.comments = s.comments)
    (clauses : List Clause) : d.columnsOf s' name clauses = d.columnsOf s name clauses := by
  rw [columnsOf, columnsOf, newTable, newTable, Statement.position?, Statement.position?, hline,
    hcomments]

theorem tableOf_congr (hline : s'.line = s.line) (hcomments : s'.comments = s.comments)
    (clauses : List Clause) : d.tableOf s' name clauses = d.tableOf s name clauses := by
  rw [tableOf, tableOf, columnsOf_congr hline hcomments, hline]

/-! ## Statements that create a table -/

/-- The statement gives the draft a table of a name that no table has. -/
structure Creates (d : Draft) (t : String) (s : Statement) : Prop where
  new : d.schema.entityNamed? t = none
  made : ((d.add s).schema.entityNamed? t).isSome = true

theorem addTable_eq_of_columns (hnew : d.schema.entityNamed? name = none)
    (hfields : (d.columnsOf s name body.splitTopLevel).entity.fields ≠ []) :
    d.addTable s name body =
      { d.absorb (d.tableOf s name body.splitTopLevel) with
        entities := d.entities ++ [(d.tableOf s name body.splitTopLevel).entity] } := by
  rw [addTable, hnew, Option.isSome_none, if_neg Bool.false_ne_true]
  exact if_neg (by simpa [columnsOf] using hfields)

/-- A definition that gives a table has a new name and columns. -/
theorem addTable_cases (d : Draft) (s : Statement) (name : String) (body : Clause) :
    (d.addTable s name body).entities = d.entities ∨ d.schema.entityNamed? name = none ∧
      (d.columnsOf s name body.splitTopLevel).entity.fields ≠ [] := by
  rw [addTable]
  split
  · exact .inl rfl
  · next hnew =>
    dsimp only
    split
    · exact .inl rfl
    · next hfields => exact .inr ⟨by simpa using hnew, by simpa [columnsOf] using hfields⟩

/-- The last table is the one of a name that no table before has. -/
theorem entityNamed?_concat {e : Entity} (hnew : d.schema.entityNamed? t = none) :
    Schema.entityNamed? { entities := d.entities ++ [e] } t =
      if Text.sameName e.name t = true then some e else none := by
  have hnone : d.entities.find? (fun e => Text.sameName e.name t) = none := hnew
  rw [Schema.entityNamed?, List.find?_append, hnone, Option.none_or, List.find?_singleton]

theorem Creates.of_header? (h : d.Creates t s) (hs : s.header? = some (.ok (name, body))) :
    d.schema.entityNamed? name = none ∧ Text.sameName name t = true ∧
      (d.columnsOf s name body.splitTopLevel).entity.fields ≠ [] := by
  have hmade := h.made
  rw [add_of_header? hs, schema] at hmade
  rcases d.addTable_cases s name body with hsame | ⟨hnew, hfields⟩
  · have hnone : Schema.entityNamed? { entities := d.entities } t = none := h.new
    rw [hsame, hnone] at hmade
    cases hmade
  · refine ⟨hnew, ?_, hfields⟩
    rw [addTable_eq_of_columns hnew hfields, entityNamed?_concat h.new] at hmade
    rw [← (d.name_tableOf s name body.splitTopLevel).1]
    by_contra hother
    rw [if_neg hother] at hmade
    cases hmade

/-- A draft gains a key with the definition of a table that says more. -/
theorem gainsKey_of_header? (hcreates : d.Creates t s)
    (hs : s.header? = some (.ok (name, body))) (hs' : s'.header? = some (.ok (name, body')))
    (hline : s'.line = s.line) (hcomments : s'.comments = s.comments)
    (hcolumns : (d.columnsOf s name body'.splitTopLevel).entity =
      (d.columnsOf s name body.splitTopLevel).entity)
    (htable : (d.tableOf s name body.splitTopLevel).Gains
      (PendingKey.isTo (entityIdAt d.entities.length) c target)
      (d.tableOf s name body'.splitTopLevel)) : (d.add s).GainsKey t c target (d.add s') := by
  obtain ⟨hnew, hname, hfields⟩ := hcreates.of_header? hs
  obtain ⟨hsame, hid⟩ := d.name_tableOf s name body.splitTopLevel
  have hfields' : (d.columnsOf s' name body'.splitTopLevel).entity.fields ≠ [] := by
    rwa [columnsOf_congr hline hcomments, hcolumns]
  rw [add_of_header? hs, add_of_header? hs', addTable_eq_of_columns hnew hfields,
    addTable_eq_of_columns hnew hfields', tableOf_congr hline hcomments]
  refine ⟨entityIdAt d.entities.length, ?_, ?_, htable.keys.append_left d.pendingKeys⟩
  · rw [idNamed?_eq, schema, entityNamed?_concat hcreates.new, if_pos (by rw [hsame, hname]),
      Option.map_some, hid]
  · dsimp only
    rw [htable.entity]

/-! ## Statements that alter a table -/

/-- The table of a name after actions of an alteration. -/
def afterActions? (d : Draft) (line : Nat) (name : String) (actions : Clause) :
    Option TableDraft := do
  let index ← d.entities.findIdx? fun e => Text.sameName e.name name
  let entity ← d.entities[index]?
  return actions.splitTopLevel.foldl (TableDraft.addAction index line) { entity }

/-- The table of a name stands at an index. -/
theorem exists_index (hname : Text.sameName name t = true)
    (h : (d.schema.entityNamed? t).isSome = true) :
    ∃ index entity, d.entities.findIdx? (fun e => Text.sameName e.name name) = some index ∧
      d.entities[index]? = some entity ∧ d.idNamed? t = some entity.id := by
  obtain ⟨entity, hentity⟩ := Option.isSome_iff_exists.1 h
  have hid : d.idNamed? t = some entity.id := by rw [idNamed?_eq, hentity, Option.map_some]
  rw [← Schema.entityNamed?_congr hname, Schema.entityNamed?,
    List.find?_eq_bind_findIdx?_getElem?, Option.bind_eq_some_iff] at hentity
  obtain ⟨index, hindex, hentity⟩ := hentity
  exact ⟨index, entity, hindex, hentity, hid⟩

/-- A draft gains a key with a table that gains one. -/
theorem gainsKey_of_tables {index : Nat} {entity : Entity} {table table' : TableDraft}
    (hid : idNamed? { d.absorb table with entities := d.entities.set index table.entity } t =
      some entity.id)
    (htable : table.Gains (PendingKey.isTo entity.id c target) table') :
    GainsKey t c target
      { d.absorb table with entities := d.entities.set index table.entity }
      { d.absorb table' with entities := d.entities.set index table'.entity } := by
  refine ⟨entity.id, hid, ?_, htable.keys.append_left d.pendingKeys⟩
  dsimp only
  rw [htable.entity]

end Draft

end Ddl

end EntityRelation
