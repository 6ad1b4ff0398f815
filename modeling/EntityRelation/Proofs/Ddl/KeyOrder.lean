import EntityRelation.Proofs.Ddl.PrimaryKeys

/-!
# The order of a composite key

A foreign key without parent columns stands for the primary key of its parent table, column by
column. The key itself is kept as a mark on each of its columns, so the order in which its clause
names them is gone when the foreign key is resolved: the `i`-th child column is linked to the `i`-th
key column in the order of the table (`importStatements_wholeKey`). That is the `i`-th column of the
clause where the clause follows the order of the table.
-/

namespace EntityRelation

/-! ## Tables with a key -/

/-- In a list without repetitions a sublist is what its members pick out. -/
theorem filter_mem_of_sublist {α : Type} [BEq α] [LawfulBEq α] {as bs : List α} (h : as.Sublist bs)
    (hbs : bs.Nodup) : bs.filter (· ∈ as) = as := by
  induction h with
  | slnil => rfl
  | @cons as bs b h ih =>
      rw [List.nodup_cons] at hbs
      have hnot : b ∉ as := fun hmem => hbs.1 (h.subset hmem)
      rw [List.filter_cons_of_neg (by simpa using hnot), ih hbs.2]
  | @cons_cons as bs b h ih =>
      rw [List.nodup_cons] at hbs
      have hrest : bs.filter (· ∈ b :: as) = bs.filter (· ∈ as) := by
        refine List.filter_congr fun c hc => ?_
        have hne : c ≠ b := fun heq => hbs.1 (heq ▸ hc)
        simp [hne]
      rw [List.filter_cons_of_pos (by simp), hrest, ih hbs.2]

namespace Entity

variable {e e' : Entity} {keys : List String}

/-- The key of the table is made of the columns of some names. -/
def HasKey (e : Entity) (keys : List String) : Prop :=
  ∀ name, e.isKeyColumn name = true ↔ ∃ key ∈ keys, Text.sameName key name = true

theorem isKeyColumn_of_keyless (h : e.primaryKeys = []) (name : String) :
    e.isKeyColumn name = false := by
  rw [Bool.eq_false_iff]
  intro hkey
  obtain ⟨f, hf, hprimary⟩ := isKeyColumn_iff.1 hkey
  exact List.filter_eq_nil_iff.1 h f (List.mem_of_find?_eq_some hf) hprimary

/-- A table that had no key, and in which nothing but the columns of some names is a key column. -/
theorem Grows.hasKey (h : Grows keys e e') (hkeyless : e.primaryKeys = [])
    (hkeys : ∀ key ∈ keys, e'.isKeyColumn key = true) : e'.HasKey keys := by
  intro name
  constructor
  · intro hname
    refine (h.key_gained name hname).resolve_left fun hold => ?_
    rw [isKeyColumn_of_keyless hkeyless] at hold
    cases hold
  · rintro ⟨key, hkey, hsame⟩
    rw [← isKeyColumn_congr hsame]
    exact hkeys key hkey

theorem HasKey.grows (h : e.HasKey keys) (hgrows : Grows [] e e') : e'.HasKey keys := by
  intro name
  rw [← h name]
  refine ⟨fun hname => ?_, hgrows.key_kept name⟩
  exact (hgrows.key_gained name hname).resolve_right fun ⟨key, hkey, _⟩ => List.not_mem_nil hkey

theorem HasKey.of_bare (h : e.HasKey keys) (hbare : e'.bare = e.bare) : e'.HasKey keys := by
  intro name
  rw [← e'.isKeyColumn_bare, hbare, e.isKeyColumn_bare]
  exact h name

theorem foldedNames_bare (e : Entity) : (e.bare.fields.map fun f => Text.foldAscii f.name) =
    e.fields.map fun f => Text.foldAscii f.name := by
  rw [bare_fields, List.map_map]
  rfl

theorem primaryKeys_bare (e : Entity) :
    e.bare.primaryKeys = e.primaryKeys.map Field.clearReference := by
  rw [primaryKeys, bare_fields, List.filter_map]
  rfl

section Bare

variable {key field : Field} {column : String} {i : Nat} (h : e'.bare = e.bare)

include h

theorem name_of_bare : e'.name = e.name :=
  (congrArg Entity.name h :)

/-- The key columns of a table are told but for their references. -/
theorem exists_key_of_bare (hkey : e'.primaryKeys[i]? = some key) :
    ∃ key', e.primaryKeys[i]? = some key' ∧ key'.name = key.name := by
  have hbares := congrArg (fun e => e.primaryKeys[i]?) h
  simp only [primaryKeys_bare, List.getElem?_map, hkey, Option.map_some] at hbares
  obtain ⟨key', hkey', hclear⟩ := Option.map_eq_some_iff.1 hbares.symm
  exact ⟨key', hkey', (congrArg Field.name hclear :)⟩

/-- The columns of a table are told but for their references. -/
theorem exists_field_of_bare (hfield : e'.fieldNamed? column = some field) :
    ∃ field', e.fieldNamed? column = some field' ∧ field'.name = field.name := by
  have hbares := congrArg (fun e => e.fieldNamed? column) h
  simp only [fieldNamed?_bare, hfield, Option.map_some] at hbares
  obtain ⟨field', hfield', hclear⟩ := Option.map_eq_some_iff.1 hbares.symm
  exact ⟨field', hfield', (congrArg Field.name hclear :)⟩

end Bare

namespace HasKey

variable (h : e.HasKey keys) (hnames : (e.fields.map fun f => Text.foldAscii f.name).Nodup)

include h hnames

/-- The names of the key columns are picked out of the names of the columns. -/
theorem map_primaryKeys : e.primaryKeys.map (fun f => Text.foldAscii f.name) =
    (e.fields.map fun f => Text.foldAscii f.name).filter (· ∈ keys.map Text.foldAscii) := by
  rw [List.filter_map, primaryKeys]
  refine congrArg (List.map _) (List.filter_congr fun f hf => ?_)
  have hfield : e.fieldNamed? f.name = some f := find?_key_eq_some hnames hf
  have hkey : e.isKeyColumn f.name = f.isPrimaryKey := by
    rw [isKeyColumn, hfield, Option.any_some]
  rw [← hkey, Bool.eq_iff_iff, h f.name]
  simp [Text.sameName]

theorem length_primaryKeys (hdistinct : (keys.map Text.foldAscii).Nodup) :
    e.primaryKeys.length = keys.length := by
  have hperm : (e.primaryKeys.map fun f => Text.foldAscii f.name).Perm
      (keys.map Text.foldAscii) := by
    rw [h.map_primaryKeys hnames, List.perm_ext_iff_of_nodup (hnames.filter _) hdistinct]
    intro name
    rw [List.mem_filter, decide_eq_true_eq]
    refine ⟨And.right, fun hname => ⟨?_, hname⟩⟩
    obtain ⟨key, hkey, rfl⟩ := List.mem_map.1 hname
    obtain ⟨f, hf, -⟩ := isKeyColumn_iff.1 ((h key).2 ⟨key, hkey, beq_self_eq_true _⟩)
    have hsame := List.find?_some hf
    exact List.mem_map.2 ⟨f, List.mem_of_find?_eq_some hf, beq_iff_eq.1 hsame⟩
  simpa using hperm.length_eq

/-- A key that follows the order of the columns. -/
theorem map_primaryKeys_of_sublist (horder : (keys.map Text.foldAscii).Sublist
    (e.fields.map fun f => Text.foldAscii f.name)) :
    e.primaryKeys.map (fun f => Text.foldAscii f.name) = keys.map Text.foldAscii := by
  rw [h.map_primaryKeys hnames, filter_mem_of_sublist horder hnames]

end HasKey

end Entity

namespace Ddl

open Clause

/-! ## The clause of the parent table -/

theorem IsPrimaryKey.keyNames_eq {label c : Clause} {keys : List String}
    (h : IsPrimaryKey label [] keys c) (hlabel : IsConstraintName label) : c.keyNames = keys := by
  rw [keyNames, h.ofClause?_eq hlabel]
  rfl

theorem IsPrimaryKey.addedKeyNames_eq {label c action : Clause} {keys : List String}
    (h : IsPrimaryKey label [] keys c) (hlabel : IsConstraintName label)
    (hadd : action.after? [.add] = some c) : action.addedKeyNames = keys := by
  rw [addedKeyNames, hadd]
  dsimp only
  rw [h.ofClause?_eq hlabel]
  rfl

/-- Where the clauses around one declare nothing, none declares more than that one does. -/
theorem subset_of_others {names : Clause → List String} {keys : List String} {clause : Clause}
    {front back : List Clause} (hclause : names clause = keys)
    (hothers : ∀ other ∈ front ++ back, names other = []) :
    ∀ c ∈ front ++ clause :: back, names c ⊆ keys := by
  intro c hc
  rcases List.mem_append.1 hc with hfront | hback
  · rw [hothers c (List.mem_append_left _ hfront)]
    exact List.nil_subset keys
  · rcases List.mem_cons.1 hback with rfl | hback
    · rw [hclause]
      exact List.Subset.refl keys
    · rw [hothers c (List.mem_append_right _ hback)]
      exact List.nil_subset keys

/-- A statement declares the key of a table in one clause, whose columns are all there. -/
inductive Draft.DeclaresKey (d : Draft) (table : String) (keys : List String) (s : Statement) :
    Prop where
  /-- It creates the table. -/
  | definition {name : String} {body clause label : Clause} {front back : List Clause}
      (creates : d.Creates table s) (header : s.header? = some (.ok (name, body)))
      (clauses : body.splitTopLevel = front ++ clause :: back) (named : IsConstraintName label)
      (states : IsPrimaryKey label [] keys clause)
      (others : ∀ other ∈ front ++ back, other.keyNames = [])
      (there : ∀ key ∈ keys,
        ((d.columnsOf s name body.splitTopLevel).entity.fieldNamed? key).isSome = true)
  /-- It alters the table, which has no key so far. -/
  | alteration {name : String} {actions action clause label : Clause} {front back : List Clause}
      {index : Nat} {e : Entity} (alters : s.lexemes.altered? = some (name, actions))
      (same : Text.sameName name table = true)
      (stands : d.entities.findIdx? (fun e => Text.sameName e.name name) = some index)
      (entity : d.entities[index]? = some e) (keyless : e.primaryKeys = [])
      (clauses : actions.splitTopLevel = front ++ action :: back)
      (adds : action.after? [.add] = some clause) (named : IsConstraintName label)
      (states : IsPrimaryKey label [] keys clause)
      (others : ∀ other ∈ front ++ back, other.addedKeyNames = [])
      (there : ∀ key ∈ keys, ((front.foldl (TableDraft.addAction index s.line)
        { entity := e }).entity.fieldNamed? key).isSome = true)

/-- The key of a table is declared by one clause of the statements. -/
inductive DeclaresKeyOnce (table : String) (keys : List String) : List Statement → Prop where
  | intro {before after : List Statement} {s : Statement}
      (declares : (before.foldl Draft.add {}).DeclaresKey table keys s)
      (others : ∀ other ∈ after, other.addedKeyNames table = []) :
      DeclaresKeyOnce table keys (before ++ s :: after)

namespace Draft

variable {d : Draft} {s : Statement} {table name : String} {keys : List String} {body : Clause}

/-- A statement that creates a table gives it. -/
theorem Creates.entityNamed?_add (h : d.Creates table s)
    (hs : s.header? = some (.ok (name, body))) :
    (d.add s).schema.entityNamed? table = some (d.tableOf s name body.splitTopLevel).entity := by
  obtain ⟨hnew, hname, hfields⟩ := h.of_header? hs
  rw [add_of_header? hs, addTable_eq_of_columns hnew hfields, schema, entityNamed?_concat h.new,
    (d.name_tableOf s name body.splitTopLevel).1, if_pos hname]

/-- The table of which the key is declared has this key. -/
theorem DeclaresKey.hasKey (h : d.DeclaresKey table keys s) :
    ∃ e, (d.add s).schema.entityNamed? table = some e ∧ e.HasKey keys := by
  cases h with
  | @definition name body clause label front back creates header clauses named states others
      there =>
      refine ⟨_, creates.entityNamed?_add header, ?_⟩
      have hkeys : ∀ c ∈ body.splitTopLevel, c.keyNames ⊆ keys := by
        rw [clauses]
        exact subset_of_others (states.keyNames_eq named) others
      have hgrows : TableDraft.Grows keys (newTable d.entities.length s name)
          (d.tableOf s name body.splitTopLevel) :=
        (TableDraft.grows_addColumns hkeys _).trans (TableDraft.grows_applyConstraints hkeys _)
      refine hgrows.hasKey rfl fun key hkey => ?_
      refine (d.tableOf_primaryKey s name clauses (states.ofClause?_eq named) hkey).1 ?_
      rw [tableOf, TableDraft.isSome_fieldNamed?_applyConstraints]
      exact there key hkey
  | @alteration name actions action clause label front back index e alters same stands entity
      keyless clauses adds named states others there =>
      have hextends : TableDraft.Extends index (fun _ => True) { entity := e }
          (actions.splitTopLevel.foldl (TableDraft.addAction index s.line) { entity := e }) :=
        TableDraft.extends_addActions (fun _ _ _ _ _ _ => trivial) _
      rw [add_of_altered? alters stands entity, schema]
      dsimp only
      rw [entityNamed?_set stands entity hextends.name_eq, if_pos same]
      refine ⟨_, rfl, ?_⟩
      have hkeys : ∀ action ∈ actions.splitTopLevel, action.addedKeyNames ⊆ keys := by
        rw [clauses]
        exact subset_of_others (states.addedKeyNames_eq named adds) others
      have hgrows : TableDraft.Grows keys { entity := e }
          (actions.splitTopLevel.foldl (TableDraft.addAction index s.line) { entity := e }) :=
        TableDraft.grows_addActions hkeys _
      refine hgrows.hasKey keyless fun key hkey => ?_
      rw [clauses] at hkeys ⊢
      rw [List.foldl_append, List.foldl_cons]
      have hback : ∀ action ∈ back, action.addedKeyNames ⊆ keys := fun action haction =>
        hkeys action (List.mem_append_right _ (List.mem_cons_of_mem _ haction))
      refine (TableDraft.grows_addActions hback _).key_kept key ?_
      rw [TableDraft.addAction, adds]
      dsimp only
      rw [states.ofClause?_eq named]
      exact (TableDraft.applyConstraint_primaryKey hkey _).1 (there key hkey)

end Draft

/-- A key that is declared once is the key of the table to the end. -/
theorem DeclaresKeyOnce.hasKey {table : String} {keys : List String} {statements : List Statement}
    (h : DeclaresKeyOnce table keys statements) :
    ∃ e, (statements.foldl Draft.add {}).schema.entityNamed? table = some e ∧ e.HasKey keys := by
  cases h with
  | @intro before after s declares others =>
      obtain ⟨e, he, hkey⟩ := declares.hasKey
      obtain ⟨e', he', hgrows⟩ := Draft.grows_foldl_add he after
      have hnone : after.flatMap (fun s => s.addedKeyNames table) = [] :=
        List.flatMap_eq_nil_iff.2 others
      rw [hnone] at hgrows
      rw [List.foldl_append, List.foldl_cons]
      exact ⟨e', he', hkey.grows hgrows⟩

/-! ## The clause of the child table -/

/-- The lexemes of a foreign key that names no columns of its parent table. -/
inductive IsWholeKeyReference (columns : List String) (parent : String) : Clause → Prop where
  | intro {label group name tail : Clause} {foreign key references : Lexeme}
      (hlabel : IsConstraintName label) (hforeign : foreign.keyword? = some .foreign)
      (hkey : key.keyword? = some .key) (hgroup : IsNameGroup columns group)
      (href : references.keyword? = some .references) (hname : IsTableName parent name)
      (hperiod : NoPeriod tail) (hnone : tail.startsGroup = false) :
      IsWholeKeyReference columns parent
        (label ++ foreign :: key :: (group ++ references :: (name ++ tail)))

theorem IsWholeKeyReference.ofClause?_eq {columns : List String} {parent : String} {c : Clause}
    (h : IsWholeKeyReference columns parent c) :
    TableConstraint.ofClause? c = some (.foreignKey columns (some parent) []) := by
  cases h with
  | @intro label group name tail foreign key references hlabel hforeign hkey hgroup href hname
      hperiod hnone =>
      have htarget : TableConstraint.foreignTarget (references :: (name ++ tail)) =
          (some parent, []) := by
        rw [TableConstraint.foreignTarget, after?_cons href, after?]
        dsimp only
        rw [hname.tableName?_append hperiod]
        dsimp only
        rw [TableConstraint.columnGroup_of_startsGroup hnone]
      refine hlabel.ofClause?_append (by rw [hforeign]; decide) ?_
      rw [TableConstraint.body?, after?_cons_ne (by rw [hforeign]; decide), after?_cons hforeign,
        after?_cons hkey, after?]
      dsimp only
      rw [TableConstraint.toGroup, if_pos (hgroup.startsGroup _), hgroup.columnGroup]
      dsimp only
      rw [htarget]

/-- A statement puts a clause on a table. -/
inductive Draft.PutsOn (d : Draft) (table : String) (clause : Clause) (s : Statement) : Prop where
  /-- It creates the table. -/
  | definition {name : String} {body : Clause} (creates : d.Creates table s)
      (header : s.header? = some (.ok (name, body))) (mem : clause ∈ body.splitTopLevel)
  /-- It alters the table. -/
  | alteration {name : String} {actions action : Clause}
      (alters : s.lexemes.altered? = some (name, actions))
      (same : Text.sameName name table = true)
      (stands : (d.schema.entityNamed? table).isSome = true)
      (mem : action ∈ actions.splitTopLevel) (adds : action.after? [.add] = some clause)

/-- One of the statements puts a clause on a table. -/
inductive PutOn (table : String) (clause : Clause) : List Statement → Prop where
  | intro {before after : List Statement} {s : Statement}
      (puts : (before.foldl Draft.add {}).PutsOn table clause s) :
      PutOn table clause (before ++ s :: after)

namespace TableDraft

variable {d : TableDraft} {line : Nat} {table : String} {columns referenced : List String}
  {key : PendingKey}

theorem pendingKeys_addKeys (keys : List PendingKey) (d : TableDraft) :
    (keys.foldl addKey d).pendingKeys = d.pendingKeys ++ keys := by
  induction keys generalizing d with
  | nil => exact (List.append_nil _).symm
  | cons key rest ih => rw [List.foldl_cons, ih, addKey, List.append_assoc, List.singleton_append]

theorem mem_pendingKeys_applyConstraint
    (h : key ∈ keysOf d.entity.id line table columns referenced) :
    key ∈ (d.applyConstraint line (.foreignKey columns (some table) referenced)).pendingKeys := by
  rw [applyConstraint, pendingKeys_addKeys]
  exact List.mem_append_right _ h

end TableDraft

namespace Draft

variable {d : Draft} {s : Statement} {table parent : String} {clause : Clause}
  {columns referenced : List String}

/-- A foreign key that a statement puts on a table is pending for each of its columns. -/
theorem PutsOn.pendingKeys (h : d.PutsOn table clause s)
    (hclause : TableConstraint.ofClause? clause =
      some (.foreignKey columns (some parent) referenced)) :
    ∃ id, (d.add s).idNamed? table = some id ∧
      TableDraft.keysOf id s.line parent columns referenced ⊆ (d.add s).pendingKeys := by
  cases h with
  | @definition name body creates header mem =>
      obtain ⟨hnew, -, hfields⟩ := creates.of_header? header
      have hid := (d.name_tableOf s name body.splitTopLevel).2
      obtain ⟨front, back, hsplit⟩ := List.append_of_mem mem
      obtain ⟨before, -, hbefore, -, hgrows⟩ := d.tableOf_split s name hsplit hclause
      refine ⟨entityIdAt d.entities.length, ?_, fun key hkey => ?_⟩
      · rw [idNamed?_eq, creates.entityNamed?_add header, Option.map_some, hid]
      · rw [add_of_header? header, addTable_eq_of_columns hnew hfields]
        refine List.mem_append_right _ (hgrows.pendingKeys.subset ?_)
        refine TableDraft.mem_pendingKeys_applyConstraint ?_
        rwa [hbefore]
  | @alteration name actions action alters same stands mem adds =>
      obtain ⟨index, e, hindex, hentity, hid⟩ := exists_index same stands
      refine ⟨e.id, idNamed?_foldl_add hid [s], ?_⟩
      obtain ⟨front, back, hsplit⟩ := List.append_of_mem mem
      intro key hkey
      rw [add_of_altered? alters hindex hentity]
      refine List.mem_append_right _ ?_
      let before := front.foldl (TableDraft.addAction index s.line) { entity := e }
      have hbefore : before.entity.id = e.id := by
        have hextends : TableDraft.Extends index (fun _ => True) { entity := e } before :=
          TableDraft.extends_addActions (fun _ _ _ _ _ _ => trivial) _
        exact hextends.id_eq
      have hback : ∀ action ∈ back, action.addedKeyNames ⊆ back.flatMap Clause.addedKeyNames :=
        fun action haction _ hkey => List.mem_flatMap.2 ⟨action, haction, hkey⟩
      rw [hsplit, List.foldl_append, List.foldl_cons]
      refine (TableDraft.grows_addActions hback _).pendingKeys.subset ?_
      rw [TableDraft.addAction, adds]
      dsimp only
      rw [hclause]
      refine TableDraft.mem_pendingKeys_applyConstraint ?_
      rwa [hbefore]

end Draft

theorem PutOn.pendingKeys {table parent : String} {clause : Clause}
    {columns referenced : List String} {statements : List Statement}
    (h : PutOn table clause statements)
    (hclause : TableConstraint.ofClause? clause =
      some (.foreignKey columns (some parent) referenced)) :
    ∃ id line, (statements.foldl Draft.add {}).idNamed? table = some id ∧
      TableDraft.keysOf id line parent columns referenced ⊆
        (statements.foldl Draft.add {}).pendingKeys := by
  cases h with
  | @intro before after s puts =>
      obtain ⟨id, hid, hkeys⟩ := puts.pendingKeys hclause
      rw [List.foldl_append, List.foldl_cons]
      exact ⟨id, s.line, Draft.idNamed?_foldl_add hid after,
        List.Subset.trans hkeys (Draft.kept_foldl_add _ after).2.subset⟩

/-! ## The links between them -/

theorem mem_keysOf {child : EntityId} {line i : Nat} {parent column : String}
    {columns referenced : List String} (h : columns[i]? = some column) :
    ⟨child, column, parent, referenced[i]?, i, line⟩ ∈
      TableDraft.keysOf child line parent columns referenced := by
  obtain ⟨hlt, rfl⟩ := List.getElem?_eq_some_iff.1 h
  exact List.mem_mapIdx.2 ⟨i, hlt, rfl⟩

/-- A foreign key of a column to a key column of its parent table is a link between the two. -/
theorem Draft.mem_links {d : Draft} (hd : d.Numbered) {parent child : Entity} {key field : Field}
    {table other column : String} {i line : Nat}
    (hparent : d.schema.entityNamed? table = some parent)
    (hchild : d.schema.entityNamed? other = some child)
    (hkey : parent.primaryKeys[i]? = some key) (hfield : child.fieldNamed? column = some field)
    (hpending : ⟨child.id, column, table, none, i, line⟩ ∈ d.pendingKeys) :
    (⟨parent.name, key.name⟩, ⟨child.name, field.name⟩) ∈ d.linked.syncForeignKeys.links := by
  have hstands : d.schema.entity? child.id = some child :=
    Schema.entity?_eq_some hd.entityIds (List.mem_of_find?_eq_some hchild)
  have hlink : PendingKey.link? d.schema ⟨child.id, column, table, none, i, line⟩ =
      some ⟨parent, key, child, field⟩ := by
    rw [PendingKey.link?, hstands, Option.bind_some, PendingKey.link, hfield, hparent]
    dsimp only
    rw [PendingKey.parentField?, hkey]
    rfl
  exact (hd.linkedBy.mem_links_iff _).2
    (List.mem_map.2 ⟨_, List.mem_filterMap.2 ⟨_, hpending, hlink⟩, rfl⟩)

/-- A table whose key one clause declares, and a foreign key to it that names no columns of it: the
`i`-th column of the foreign key is linked to the `i`-th key column in the order of the table. Where
the clause follows that order, this is the `i`-th column that the clause names. -/
theorem importStatements_wholeKey {statements : List Statement} {table other : String}
    {keys columns : List String} {clause : Clause} (hkey : DeclaresKeyOnce table keys statements)
    (hdistinct : (keys.map Text.foldAscii).Nodup)
    (hclause : IsWholeKeyReference columns table clause) (hput : PutOn other clause statements) :
    ∃ report parent child, importStatements statements = .ok report ∧
      report.schema.entityNamed? table = some parent ∧
      report.schema.entityNamed? other = some child ∧
      parent.HasKey keys ∧ parent.primaryKeys.length = keys.length ∧
      ∀ i column field, i < keys.length → columns[i]? = some column →
        child.fieldNamed? column = some field → ∃ key, parent.primaryKeys[i]? = some key ∧
          (⟨parent.name, key.name⟩, ⟨child.name, field.name⟩) ∈ report.schema.links ∧
          ((keys.map Text.foldAscii).Sublist (parent.fields.map fun f => Text.foldAscii f.name) →
            ∀ name, keys[i]? = some name → Text.sameName key.name name = true) := by
  obtain ⟨e, he, hhas⟩ := hkey.hasKey
  obtain ⟨id, line, hid, hkeys⟩ := hput.pendingKeys hclause.ofClause?_eq
  rw [Draft.idNamed?_eq] at hid
  obtain ⟨e', he', rfl⟩ := Option.map_eq_some_iff.1 hid
  have hnumbered : (statements.foldl Draft.add {}).Numbered := Draft.Numbered.empty.foldl_add _
  have htabled : (statements.foldl Draft.add {}).Tabled fun _ => True :=
    Draft.Tabled.empty.foldl_add fun _ _ _ _ _ _ => trivial
  obtain ⟨report, hreport, hschema, -⟩ := Draft.finish_of_entityNamed? he
  obtain ⟨parent, hparent, hbare⟩ := Draft.entityNamed?_linked he
  obtain ⟨child, hchild, hbare'⟩ := Draft.entityNamed?_linked he'
  rw [← hschema] at hparent hchild
  have hnames : (parent.fields.map fun f => Text.foldAscii f.name).Nodup := by
    rw [← parent.foldedNames_bare, hbare, e.foldedNames_bare]
    exact htabled.fieldNames e (List.mem_of_find?_eq_some he)
  have hparentKey := hhas.of_bare hbare
  have hlength := hparentKey.length_primaryKeys hnames hdistinct
  refine ⟨report, parent, child, hreport, hparent, hchild, hparentKey, hlength, ?_⟩
  intro i column field hi hcolumn hfield
  obtain ⟨key, hkey⟩ : ∃ key, parent.primaryKeys[i]? = some key :=
    ⟨_, List.getElem?_eq_getElem (hlength ▸ hi)⟩
  -- both columns are there before the links are made, but for their references
  obtain ⟨key', hkey', hkeyName⟩ := Entity.exists_key_of_bare hbare hkey
  obtain ⟨field', hfield', hfieldName⟩ := Entity.exists_field_of_bare hbare' hfield
  have hlink := Draft.mem_links hnumbered he he' hkey' hfield' (hkeys (mem_keysOf hcolumn))
  rw [← hschema, ← Entity.name_of_bare hbare, ← Entity.name_of_bare hbare', hkeyName,
    hfieldName] at hlink
  refine ⟨key, hkey, hlink, fun horder name hnamed => ?_⟩
  have hfolded := congrArg (fun names => names[i]?)
    (hparentKey.map_primaryKeys_of_sublist hnames horder)
  simp only [List.getElem?_map, hkey, hnamed, Option.map_some, Option.some.injEq] at hfolded
  exact beq_iff_eq.2 hfolded

/-- `PRIMARY KEY (first, second)` -/
def pairKey (first second : String) : Clause :=
  [] ++ Column.wordLexeme "PRIMARY" :: Column.wordLexeme "KEY" ::
    ([] ++ (pairGroup first second ++ []))

/-- `FOREIGN KEY (x, y) REFERENCES place` -/
def placeReference : Clause :=
  [] ++ Column.wordLexeme "FOREIGN" :: Column.wordLexeme "KEY" ::
    (pairGroup "x" "y" ++ Column.wordLexeme "REFERENCES" :: ([Column.wordLexeme "place"] ++ []))

/-- The key is `(bay, hall)`, and the first column of the foreign key is linked to `hall`. -/
theorem importStatements_wholeKey_place : ∃ report,
    importStatements [pairTable "place" "hall" "bay" (pairKey "bay" "hall"),
      pairTable "item" "x" "y" placeReference] = .ok report ∧
    (⟨"place", "hall"⟩, ⟨"item", "x"⟩) ∈ report.schema.links := by
  have hkey : DeclaresKeyOnce "place" ["bay", "hall"]
      ([] ++ pairTable "place" "hall" "bay" (pairKey "bay" "hall") ::
        [pairTable "item" "x" "y" placeReference]) := by
    have hheader : (pairTable "place" "hall" "bay" (pairKey "bay" "hall")).header? =
        some (.ok ("place", pairBody "hall" "bay" (pairKey "bay" "hall"))) := by decide +kernel
    have hclauses : (pairBody "hall" "bay" (pairKey "bay" "hall")).splitTopLevel =
        pairColumns "hall" "bay" ++ pairKey "bay" "hall" :: [] := by decide +kernel
    have hstates : IsPrimaryKey [] [] ["bay", "hall"] (pairKey "bay" "hall") :=
      .intro .unnamed rfl rfl nofun (isNameGroup_pairGroup _ _)
    exact .intro (.definition ⟨rfl, by decide +kernel⟩ hheader hclauses .unnamed hstates
      (by decide +kernel) (by decide +kernel)) (by decide +kernel)
  have hclause : IsWholeKeyReference ["x", "y"] "place" placeReference :=
    .intro .unnamed rfl rfl (isNameGroup_pairGroup _ _) rfl (.last rfl) nofun rfl
  have hput : PutOn "item" placeReference
      ([pairTable "place" "hall" "bay" (pairKey "bay" "hall")] ++
        pairTable "item" "x" "y" placeReference :: []) := by
    have hheader : (pairTable "item" "x" "y" placeReference).header? =
        some (.ok ("item", pairBody "x" "y" placeReference)) := by decide +kernel
    exact .intro (.definition ⟨by decide +kernel, by decide +kernel⟩ hheader (by decide +kernel))
  have hfacts : ((importStatements [pairTable "place" "hall" "bay" (pairKey "bay" "hall"),
      pairTable "item" "x" "y" placeReference]).toOption.any fun report =>
        (report.schema.entityNamed? "place").any (fun parent =>
          parent.name == "place" && parent.primaryKeys.map (·.name) == ["hall", "bay"]) &&
        (report.schema.entityNamed? "item").any fun child =>
          child.name == "item" && (child.fieldNamed? "x").any (·.name == "x")) = true := by
    decide +kernel
  obtain ⟨report, parent, child, hreport, hparent, hchild, -, -, hlinks⟩ :=
    importStatements_wholeKey hkey (by decide) hclause hput
  refine ⟨report, hreport, ?_⟩
  rw [List.nil_append] at hreport
  rw [hreport, Except.toOption, Option.any_some, hparent, hchild, Option.any_some,
    Option.any_some] at hfacts
  simp only [Bool.and_eq_true, beq_iff_eq] at hfacts
  obtain ⟨⟨hplace, hkeys⟩, hitem, hx⟩ := hfacts
  obtain ⟨field, hfield, hname⟩ := (Option.any_eq_true _ _).1 hx
  obtain ⟨key, hfirst, hlink, -⟩ := hlinks 0 "x" field (by decide) rfl hfield
  have hhall : key.name = "hall" := by
    have hnames := congrArg (fun names => names[0]?) hkeys
    simpa [hfirst] using hnames
  rwa [hplace, hitem, hhall, beq_iff_eq.1 hname] at hlink

/-- The key is `(b, a)` and the foreign key is `(x, y)`, but `x` is linked to `a` and `y` to `b`. -/
theorem importedLinks_wholeKey_swapped :
    importedLinks "CREATE TABLE p (a INT, b INT, PRIMARY KEY (b, a));
        CREATE TABLE c (x INT, y INT, FOREIGN KEY (x, y) REFERENCES p);" =
      [(⟨"p", "a"⟩, ⟨"c", "x"⟩), (⟨"p", "b"⟩, ⟨"c", "y"⟩)] := by
  decide +kernel

end Ddl

end EntityRelation
