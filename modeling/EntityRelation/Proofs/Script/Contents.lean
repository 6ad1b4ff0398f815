import EntityRelation.Proofs.DefinitionOrder
import EntityRelation.Proofs.Schema.ViewByField
import EntityRelation.Proofs.Validation.Acceptance

/-!
# What a script says

The text of a script is the texts of its statements with nothing but line breaks between them
(`spaced_toScript`), and the text of a table definition is made of its clauses. Counting statements
and clauses is therefore counting in the script and not in its text, where a type or a default may
hold any words.

A schema that the validator accepts and whose foreign key view is up to date is said once
(`SaysOnce`): a definition for each table, a key for each definition, a foreign key clause for each
relationship, and an index for each column that a foreign key clause of its table is on, whether one
relationship ends there or several.
-/

namespace EntityRelation

/-! ## Lists -/

/-- Where every element has a key of its own, gathering things by their keys only changes their
order. -/
theorem flatMap_filter_key_perm {α β κ : Type} [BEq κ] [LawfulBEq κ] {key : α → κ} {as : List α}
    (h : (as.map key).Nodup) {owner : β → κ} {bs : List β} (hbs : ∀ b ∈ bs, owner b ∈ as.map key) :
    (as.flatMap fun a => bs.filter (owner · == key a)).Perm bs := by
  induction as generalizing bs with
  | nil =>
      cases bs with
      | nil => exact List.Perm.refl _
      | cons b bs => cases hbs b List.mem_cons_self
  | cons a as ih =>
      rw [List.map_cons, List.nodup_cons] at h
      have hothers : ∀ b ∈ bs.filter (fun b => !(owner b == key a)), owner b ∈ as.map key := by
        intro b hb
        obtain ⟨hmem, hne⟩ := List.mem_filter.1 hb
        rcases List.mem_cons.1 (hbs b hmem) with heq | hrest
        · simp [heq] at hne
        · exact hrest
      have hrest : (as.flatMap fun a' => bs.filter (owner · == key a')) =
          as.flatMap fun a' => (bs.filter fun b => !(owner b == key a)).filter
            (owner · == key a') := by
        refine List.flatMap_congr fun a' ha' => ?_
        rw [List.filter_filter]
        refine List.filter_congr fun b _ => ?_
        have hne : key a' ≠ key a := fun heq => h.1 (heq ▸ List.mem_map_of_mem ha')
        by_cases hb : owner b = key a'
        · simp [hb, hne]
        · simp [hb]
      rw [List.flatMap_cons, hrest]
      exact ((ih h.2 hothers).append_left _).trans (List.filter_append_perm _ bs)

/-- Where a function has a value everywhere, its values are a list. -/
theorem map_eq_map_some {α β : Type} {f : α → Option β} {as : List α}
    (h : ∀ a ∈ as, (f a).isSome) : as.map f = (as.filterMap f).map some := by
  induction as with
  | nil => rfl
  | cons a as ih =>
      obtain ⟨b, hb⟩ := Option.isSome_iff_exists.1 (h a List.mem_cons_self)
      rw [List.map_cons, List.filterMap_cons_some hb, List.map_cons, hb,
        ih fun a' ha' => h a' (List.mem_cons_of_mem a ha')]

theorem nodup_map_of_comp {α β γ : Type} {f : α → β} {g : β → γ} {as : List α}
    (h : (as.map fun a => g (f a)).Nodup) : (as.map f).Nodup := by
  refine List.Nodup.of_map g ?_
  rw [List.map_map]
  exact h

namespace Script

/-! ## Statements and clauses -/

/-- A clause of a table definition. -/
inductive Clause where
  | column (c : ColumnDefinition)
  | primaryKey (columns : List String)
  | foreignKey (k : ForeignKeyDefinition)
  deriving DecidableEq, Repr

namespace Clause

def text (d : Dialect) : Clause → String
  | column c => renderColumn d c
  | primaryKey columns => renderCompositeKey d columns
  | foreignKey k => renderForeignKey d k

def column? : Clause → Option ColumnDefinition
  | column c => some c
  | _ => none

def foreignKey? : Clause → Option ForeignKeyDefinition
  | foreignKey k => some k
  | _ => none

/-- Whether a clause declares a primary key: the clause of a column may, and the clause of several
columns does. -/
def declaresKey : Clause → Bool
  | column c => c.isSoleKey
  | primaryKey _ => true
  | foreignKey _ => false

end Clause

/-- The clauses of a table definition in their order. -/
def clausesOf (t : TableDefinition) : List Clause :=
  t.columns.map .column ++ (if t.compositeKey.isEmpty then [] else [.primaryKey t.compositeKey]) ++
    t.foreignKeys.map .foreignKey

/-- A statement of a script. -/
inductive Statement where
  | dropTable (table : String)
  | createTable (t : TableDefinition)
  | createIndex (i : IndexDefinition)
  deriving Repr

/-- The text of a statement. The comment that notes a position belongs to the table behind it. -/
def Statement.text (d : Dialect) : Statement → String
  | dropTable table => renderDrop d table
  | createTable t => (t.position.map renderPosition).getD "" ++ "CREATE TABLE " ++ d.quote t.name ++
      " (\n" ++ String.intercalate ",\n" ((clausesOf t).map (Clause.text d)) ++ "\n);\n\n"
  | createIndex i => renderIndex d i

/-- The statements of a script in their order. -/
def statements (script : Script) : List Statement :=
  script.drops.map .dropTable ++ script.tables.map .createTable ++
    script.indexes.flatten.map .createIndex

/-- A text is made of some texts in their order and of line breaks between them. -/
inductive Spaced : List String → String → Prop
  | nil : Spaced [] ""
  | text (first : String) {texts : List String} {rest : String} (h : Spaced texts rest) :
      Spaced (first :: texts) (first ++ rest)
  | lineBreak {texts : List String} {rest : String} (h : Spaced texts rest) :
      Spaced texts ("\n" ++ rest)

namespace Spaced

theorem append {texts texts' : List String} {x y : String} (hx : Spaced texts x)
    (hy : Spaced texts' y) : Spaced (texts ++ texts') (x ++ y) := by
  induction hx with
  | nil => simpa using hy
  | text first _ ih =>
      rw [List.cons_append, String.append_assoc]
      exact .text first ih
  | lineBreak _ ih =>
      rw [String.append_assoc]
      exact .lineBreak ih

theorem join (texts : List String) : Spaced texts (String.join texts) := by
  induction texts with
  | nil => exact .nil
  | cons first texts ih =>
      rw [String.join_cons]
      exact .text first ih

theorem paragraph (texts : List String) : Spaced texts (Script.paragraph texts) := by
  cases texts with
  | nil => exact .nil
  | cons first texts =>
      have hbreak := (join (first :: texts)).append (.lineBreak .nil)
      rwa [List.append_nil, String.append_empty] at hbreak

theorem join_paragraphs (parts : List (List String)) :
    Spaced parts.flatten (String.join (parts.map Script.paragraph)) := by
  induction parts with
  | nil => exact .nil
  | cons part parts ih =>
      rw [List.map_cons, String.join_cons, List.flatten_cons]
      exact (paragraph part).append ih

end Spaced

theorem text_createTable (d : Dialect) (t : TableDefinition) :
    (Statement.createTable t).text d = renderTable d t := by
  have hclauses : (clausesOf t).map (Clause.text d) = clauses d t := by
    rw [clausesOf, clauses, List.map_append, List.map_append, List.map_map, List.map_map]
    split <;> rfl
  rw [Statement.text, renderTable, hclauses]

/-- A script is written statement by statement. -/
theorem spaced_toScript (s : Schema) (options : ScriptOptions) :
    Spaced ((ofSchema s options).statements.map (Statement.text options.dialect))
      (s.toScript options) := by
  have hdrops := Spaced.paragraph ((ofSchema s options).drops.map (renderDrop options.dialect))
  have htables := Spaced.join ((ofSchema s options).tables.map (renderTable options.dialect))
  have hindexes := Spaced.join_paragraphs
    ((ofSchema s options).indexes.map (List.map (renderIndex options.dialect)))
  rw [List.map_map, ← List.map_flatten] at hindexes
  rw [statements, List.map_append, List.map_append, List.map_map, List.map_map, List.map_map]
  simp only [Function.comp_def, text_createTable]
  exact (hdrops.append htables).append hindexes

/-! ## What is said once -/

/-- A table definition has all columns of an entity in their order and declares its primary key
once: on the column if the key is one column, and else in a clause of its own. -/
structure Defines (t : TableDefinition) (e : Entity) : Prop where
  columns : ((clausesOf t).filterMap Clause.column?).map (·.name) = e.fields.map Field.name
  key : (∃ f c, e.primaryKeys = [f] ∧ c.name = f.name ∧
      (clausesOf t).filter Clause.declaresKey = [.column c]) ∨
    1 < e.primaryKeys.length ∧
      (clausesOf t).filter Clause.declaresKey = [.primaryKey (e.primaryKeys.map Field.name)]

/-- The foreign key clauses of a table definition. -/
def foreignKeysOf (t : TableDefinition) : List ForeignKeyDefinition :=
  (clausesOf t).filterMap Clause.foreignKey?

/-- A script says everything that there is in a schema, and says it once. -/
structure SaysOnce (s : Schema) (options : ScriptOptions) (script : Script) : Prop where
  /-- Every entity has one table, and there are no other tables. -/
  tables : ∀ e ∈ s.entities, ∃ t, script.tables.filter (·.name == e.name) = [t] ∧ Defines t e
  length_tables : script.tables.length = s.entities.length
  /-- Every relationship joins two columns, and what it says is one clause in the table of its
  child. There are no other foreign key clauses. -/
  foreignKeys : ∃ links : List Link, s.relationships.map s.resolve? = links.map some ∧
    (script.tables.flatMap fun t => (foreignKeysOf t).map (t.name, ·)).Perm
      (links.map fun link =>
        (link.child.name, ⟨link.childField.name, link.parent.name, link.parentField.name⟩))
  /-- No column has two indexes. -/
  indexes_nodup : (script.indexes.flatten.map fun i => (i.table, i.column)).Nodup
  /-- The columns with an index are those that a foreign key clause of their table is on. -/
  mem_indexes : ∀ table column,
    (table, column) ∈ script.indexes.flatten.map (fun i => (i.table, i.column)) ↔
      ∃ t ∈ script.tables, t.name = table ∧ ∃ k ∈ foreignKeysOf t, k.column = column
  /-- Tables are dropped in the reverse of the order in which they are created, if at all. -/
  drops : script.drops = if options.includeDrops then (script.tables.map (·.name)).reverse else []

variable {s : Schema} {e : Entity} {v : Validator} {options : ScriptOptions}

/-! ## Tables -/

theorem filterMap_column?_clausesOf (t : TableDefinition) :
    (clausesOf t).filterMap Clause.column? = t.columns := by
  rw [clausesOf, List.filterMap_append, List.filterMap_append, List.filterMap_map,
    List.filterMap_map]
  split <;> simp [Function.comp_def, Clause.column?]

theorem foreignKeysOf_eq (t : TableDefinition) : foreignKeysOf t = t.foreignKeys := by
  rw [foreignKeysOf, clausesOf, List.filterMap_append, List.filterMap_append, List.filterMap_map,
    List.filterMap_map]
  split <;> simp [Function.comp_def, Clause.foreignKey?]

theorem filter_declaresKey_clausesOf (t : TableDefinition) :
    (clausesOf t).filter Clause.declaresKey =
      (t.columns.filter (·.isSoleKey)).map .column ++
        if t.compositeKey.isEmpty then [] else [.primaryKey t.compositeKey] := by
  rw [clausesOf, List.filter_append, List.filter_append, List.filter_map, List.filter_map]
  split <;> simp [Function.comp_def, Clause.declaresKey]

theorem filter_isSoleKey_map_ofField (d : Dialect) (e : Entity) (keyCount : Nat) :
    (e.fields.map (ColumnDefinition.ofField d keyCount)).filter (·.isSoleKey) =
      if keyCount = 1 then e.primaryKeys.map (ColumnDefinition.ofField d keyCount) else [] := by
  rw [List.filter_map]
  split
  · next hone => simp [hone, Function.comp_def, ColumnDefinition.ofField, Entity.primaryKeys]
  · next hone => simp [hone, Function.comp_def, ColumnDefinition.ofField]

theorem defines_ofEntity (hkey : ∃ f ∈ e.fields, f.isPrimaryKey = true) :
    Defines (TableDefinition.ofEntity s options e) e := by
  constructor
  case columns =>
    rw [filterMap_column?_clausesOf, TableDefinition.ofEntity, List.map_map]
    rfl
  case key =>
    obtain ⟨f, hf, hprimary⟩ := hkey
    have hpos : 0 < e.primaryKeys.length :=
      List.length_pos_of_mem (List.mem_filter.2 ⟨hf, hprimary⟩)
    rw [filter_declaresKey_clausesOf, TableDefinition.ofEntity, filter_isSoleKey_map_ofField]
    by_cases hone : e.primaryKeys.length = 1
    · obtain ⟨f, hf⟩ := List.length_eq_one_iff.1 hone
      exact Or.inl ⟨f, .ofField options.dialect 1 f, hf, rfl, by simp [hf]⟩
    · have hmore : 1 < e.primaryKeys.length := by omega
      have hne : e.primaryKeys ≠ [] := List.ne_nil_of_length_pos hpos
      exact Or.inr ⟨hmore, by simp [hone, hmore, hne]⟩

theorem tables_ofSchema (s : Schema) (options : ScriptOptions) :
    (ofSchema s options).tables =
      (orderedEntities s options.order).map (TableDefinition.ofEntity s options) := rfl

/-- A table is the only one with its name. -/
theorem filter_tables_name (hnames : (s.entities.map (·.name)).Nodup) (he : e ∈ s.entities) :
    (ofSchema s options).tables.filter (·.name == e.name) =
      [TableDefinition.ofEntity s options e] := by
  have hperm := orderedEntities_perm s options.order
  have hone : (orderedEntities s options.order).filter (fun e' => e'.name == e.name) = [e] :=
    filter_key_eq_singleton ((hperm.map _).nodup_iff.2 hnames) (hperm.mem_iff.2 he)
  rw [tables_ofSchema, List.filter_map]
  exact congrArg (List.map _) hone

/-! ## Foreign keys -/

/-- A foreign key clause of an entity is that of a relationship which ends there. -/
theorem mem_foreignKeysOf_iff (hids : (s.entities.map (·.id)).Nodup) (he : e ∈ s.entities)
    {k : ForeignKeyDefinition} :
    k ∈ foreignKeysOf (TableDefinition.ofEntity s options e) ↔ ∃ r ∈ s.relationships, ∃ link,
      s.resolve? r = some link ∧ link.child = e ∧ k = ForeignKeyDefinition.ofLink link := by
  rw [foreignKeysOf_eq]
  constructor
  · exact exists_of_mem_foreignKeys hids he
  · rintro ⟨r, hr, link, hlink, rfl, rfl⟩
    refine List.mem_map_of_mem (List.mem_filterMap.2 ⟨r, List.mem_filter.2 ⟨hr, ?_⟩, hlink⟩)
    exact beq_iff_eq.2 (Schema.id_of_entity? (Schema.childEnd_of_resolve? hlink).1).symm

/-- Table by table, the clauses of the relationships are all there. -/
theorem foreignKeys_perm (hids : (s.entities.map (·.id)).Nodup)
    (hresolves : ∀ r ∈ s.relationships, (s.resolve? r).isSome) :
    ((ofSchema s options).tables.flatMap fun t => (foreignKeysOf t).map (t.name, ·)).Perm
      ((s.relationships.filterMap s.resolve?).map fun link =>
        (link.child.name, ForeignKeyDefinition.ofLink link)) := by
  let clause : Link → String × ForeignKeyDefinition := fun link =>
    (link.child.name, ForeignKeyDefinition.ofLink link)
  have htable : ∀ e ∈ s.entities,
      (foreignKeysOf (TableDefinition.ofEntity s options e)).map (e.name, ·) =
        (s.incoming e.id).filterMap fun r => (s.resolve? r).map clause := by
    intro e he
    rw [foreignKeysOf_eq, TableDefinition.ofEntity, List.map_map, List.map_filterMap]
    refine List.filterMap_congr fun r hr => Option.map_congr fun link hlink => ?_
    obtain rfl := Schema.child_eq_of_resolve? hids he hlink (beq_iff_eq.1 (List.mem_filter.1 hr).2)
    rfl
  have howner : ∀ r ∈ s.relationships, r.child.entity ∈ s.entities.map (·.id) := by
    intro r hr
    obtain ⟨e, he, hid, -⟩ := Schema.hasEnd_of_isSome ((Schema.resolve?_isSome_iff r).1
      (hresolves r hr)).2
    exact hid ▸ List.mem_map_of_mem he
  have hgathered : (s.entities.flatMap fun e =>
      (foreignKeysOf (TableDefinition.ofEntity s options e)).map (e.name, ·)) =
        (s.entities.flatMap fun e => s.incoming e.id).filterMap fun r =>
          (s.resolve? r).map clause := by
    rw [List.filterMap_flatMap]
    exact List.flatMap_congr htable
  rw [tables_ofSchema, List.flatMap_map, List.map_filterMap]
  refine ((orderedEntities_perm s options.order).flatMap_right _).trans ?_
  exact hgathered ▸ (flatMap_filter_key_perm hids howner).filterMap _

/-! ## Indexes -/

/-- A column is indexed for its flag or for a relationship that ends at it. -/
theorem isIndexed_eq_or_view (s : Schema) (e : Entity) (f : Field) :
    IndexDefinition.isIndexed s e f = (f.isForeignKey || (s.view ⟨e.id, f.id⟩).isSome) := by
  rw [IndexDefinition.isIndexed]
  congr 1
  rw [Bool.eq_iff_iff, Schema.view_isSome_iff, List.any_eq_true]
  constructor
  · rintro ⟨r, hr, hends⟩
    obtain ⟨hmem, hentity⟩ := List.mem_filter.1 hr
    obtain ⟨hfield, hresolves⟩ := Bool.and_eq_true_iff.1 hends
    exact ⟨r, hmem, congrArg₂ Endpoint.mk (beq_iff_eq.1 hentity) (beq_iff_eq.1 hfield), hresolves⟩
  · rintro ⟨r, hr, hchild, hresolves⟩
    refine ⟨r, List.mem_filter.2 ⟨hr, ?_⟩, ?_⟩
    · simp [hchild]
    · simp [hchild, hresolves]

/-- Where the view is up to date, a column is indexed if and only if a foreign key clause of its
table is on it. -/
theorem isIndexed_iff_foreignKeysOf (hs : v.Accepts s) (hview : s.Synced) (he : e ∈ s.entities)
    {f : Field} (hf : f ∈ e.fields) : IndexDefinition.isIndexed s e f = true ↔
      ∃ k ∈ foreignKeysOf (TableDefinition.ofEntity s options e), k.column = f.name := by
  rw [isIndexed_eq_or_view, hview.isForeignKey_eq ⟨hs.entityIds, hs.fieldIds⟩ he hf, Bool.or_self,
    Schema.view_isSome_iff]
  simp only [mem_foreignKeysOf_iff hs.entityIds he]
  constructor
  · rintro ⟨r, hr, hchild, hresolves⟩
    obtain ⟨link, hlink⟩ := Option.isSome_iff_exists.1 hresolves
    obtain rfl := Schema.child_eq_of_resolve? hs.entityIds he hlink (congrArg Endpoint.entity hchild)
    have hfield := (Schema.childEnd_of_resolve? hlink).2
    rw [hchild, Entity.field?_eq_some (hs.fieldIds _ he) hf] at hfield
    exact ⟨_, ⟨r, hr, link, hlink, rfl, rfl⟩, congrArg Field.name (Option.some.inj hfield).symm⟩
  · rintro ⟨_, ⟨r, hr, link, hlink, rfl, rfl⟩, hcolumn⟩
    obtain ⟨hentity, hfield⟩ := Schema.childEnd_of_resolve? hlink
    obtain rfl : link.childField = f := List.inj_on_of_nodup_map (hs.fieldNames _ he)
      (Entity.mem_of_field? hfield) hf (congrArg nameKey hcolumn)
    exact ⟨r, hr, congrArg₂ Endpoint.mk (Schema.id_of_entity? hentity).symm
      (Entity.id_of_field? hfield).symm, Option.isSome_of_eq_some hlink⟩

theorem flatten_indexes_ofSchema (s : Schema) (options : ScriptOptions) :
    (ofSchema s options).indexes.flatten =
      (orderedEntities s options.order).flatMap (IndexDefinition.ofEntity s) := by
  rw [ofSchema, List.flatten_filter_not_isEmpty]
  rfl

/-- Where the names of tables and of the columns of a table are distinct, no column has two
indexes. -/
theorem nodup_indexes (hnames : (s.entities.map (·.name)).Nodup)
    (hfields : ∀ e ∈ s.entities, (e.fields.map (·.name)).Nodup) :
    ((ofSchema s options).indexes.flatten.map fun i => (i.table, i.column)).Nodup := by
  have hperm := orderedEntities_perm s options.order
  have hordered : (orderedEntities s options.order).Pairwise fun e e' => e.name ≠ e'.name :=
    List.pairwise_map.1 ((hperm.map _).nodup_iff.2 hnames)
  rw [flatten_indexes_ofSchema, List.map_flatMap, List.nodup_flatMap]
  constructor
  · intro e he
    have hindexed := (hfields e (hperm.mem_iff.1 he)).sublist
      ((List.filter_sublist (p := IndexDefinition.isIndexed s e)).map Field.name)
    have hpairs := hindexed.map (Prod.mk_right_injective e.name)
    rw [List.map_map] at hpairs
    rw [IndexDefinition.ofEntity, List.map_map]
    exact hpairs
  · refine hordered.imp fun {e e'} hne => List.disjoint_left.2 fun column hcolumn hcolumn' => ?_
    obtain ⟨i, hi, rfl⟩ := List.mem_map.1 hcolumn
    obtain ⟨i', hi', heq⟩ := List.mem_map.1 hcolumn'
    obtain ⟨f, -, rfl⟩ := List.mem_map.1 hi
    obtain ⟨f', -, rfl⟩ := List.mem_map.1 hi'
    exact hne (Prod.mk.inj heq).1.symm

theorem mem_indexes_iff {table column : String} :
    (table, column) ∈ (ofSchema s options).indexes.flatten.map (fun i => (i.table, i.column)) ↔
      ∃ e ∈ s.entities, e.name = table ∧
        ∃ f ∈ e.fields, IndexDefinition.isIndexed s e f = true ∧ f.name = column := by
  simp only [flatten_indexes_ofSchema, List.mem_map, List.mem_flatMap, IndexDefinition.ofEntity,
    (orderedEntities_perm s options.order).mem_iff, Prod.mk.injEq, List.mem_filter]
  constructor
  · rintro ⟨_, ⟨e, he, f, ⟨hf, hindexed⟩, rfl⟩, rfl, rfl⟩
    exact ⟨e, he, rfl, f, hf, hindexed, rfl⟩
  · rintro ⟨e, he, rfl, f, hf, hindexed, rfl⟩
    exact ⟨_, ⟨e, he, f, ⟨hf, hindexed⟩, rfl⟩, rfl, rfl⟩

theorem mem_indexes_iff_foreignKeysOf (hs : v.Accepts s) (hview : s.Synced)
    {table column : String} :
    (table, column) ∈ (ofSchema s options).indexes.flatten.map (fun i => (i.table, i.column)) ↔
      ∃ t ∈ (ofSchema s options).tables, t.name = table ∧
        ∃ k ∈ foreignKeysOf t, k.column = column := by
  have hperm := orderedEntities_perm s options.order
  rw [mem_indexes_iff, tables_ofSchema]
  constructor
  · rintro ⟨e, he, rfl, f, hf, hindexed, rfl⟩
    exact ⟨_, List.mem_map_of_mem (hperm.mem_iff.2 he), rfl,
      (isIndexed_iff_foreignKeysOf hs hview he hf).1 hindexed⟩
  · rintro ⟨t, ht, rfl, k, hk, rfl⟩
    obtain ⟨e, he, rfl⟩ := List.mem_map.1 ht
    have he' := hperm.mem_iff.1 he
    obtain ⟨r, hr, link, hlink, rfl, rfl⟩ := (mem_foreignKeysOf_iff hs.entityIds he').1 hk
    have hf := Entity.mem_of_field? (Schema.childEnd_of_resolve? hlink).2
    exact ⟨link.child, he', rfl, link.childField, hf,
      (isIndexed_iff_foreignKeysOf hs hview he' hf).2 ⟨_, hk, rfl⟩, rfl⟩

/-! ## The whole script -/

theorem saysOnce_ofSchema (hs : v.Accepts s) (hview : s.Synced) (options : ScriptOptions) :
    SaysOnce s options (ofSchema s options) := by
  have hnames : (s.entities.map (·.name)).Nodup := nodup_map_of_comp hs.entityNames
  constructor
  case tables =>
    intro e he
    exact ⟨_, filter_tables_name hnames he, defines_ofEntity (hs.primaryKeys e he)⟩
  case length_tables =>
    rw [tables_ofSchema, List.length_map, (orderedEntities_perm s options.order).length_eq]
  case foreignKeys =>
    exact ⟨_, map_eq_map_some hs.resolves, foreignKeys_perm hs.entityIds hs.resolves⟩
  case indexes_nodup =>
    exact nodup_indexes hnames fun e he => nodup_map_of_comp (hs.fieldNames e he)
  case mem_indexes => exact fun table column => mem_indexes_iff_foreignKeysOf hs hview
  case drops =>
    rw [tables_ofSchema, List.map_map, ← List.map_reverse]
    rfl

end Script

/-- The script of a schema that the validator accepts and whose foreign key view is up to date is
written statement by statement, and says everything that there is in the schema once. -/
theorem Schema.toScript_says_everything_once {v : Validator} {s : Schema}
    (hvalid : (v.validate s).isValid = true) (hview : s.Synced) (options : ScriptOptions) :
    Script.Spaced ((Script.ofSchema s options).statements.map
        (Script.Statement.text options.dialect)) (s.toScript options) ∧
      Script.SaysOnce s options (Script.ofSchema s options) :=
  ⟨Script.spaced_toScript s options, Script.saysOnce_ofSchema
    ((v.reports_errors s).eq_nil_iff.1 (List.isEmpty_iff.1 hvalid)) hview options⟩

/-- Students are enrolled in courses. An enrolment is known by its student and its course, and its
course is referenced by number and by code. -/
def Schema.enrolments : Schema := Schema.syncForeignKeys
  { entities :=
      [{ id := ⟨"e1"⟩
         name := "enrolments"
         fields := [{ id := ⟨"f1"⟩, name := "student", dataType := "INT", isPrimaryKey := true },
           { id := ⟨"f2"⟩, name := "course", dataType := "INT", isPrimaryKey := true },
           { id := ⟨"f3"⟩, name := "grade", dataType := "INT" }]
         position := .origin },
       { id := ⟨"e2"⟩
         name := "students"
         fields := [{ id := ⟨"f1"⟩, name := "id", dataType := "SERIAL", isPrimaryKey := true }]
         position := .origin },
       { id := ⟨"e3"⟩
         name := "courses"
         fields := [{ id := ⟨"f1"⟩, name := "id", dataType := "SERIAL", isPrimaryKey := true },
           { id := ⟨"f2"⟩, name := "code", dataType := "INT", isUnique := true }]
         position := .origin }]
    relationships :=
      [⟨⟨"r1"⟩, ⟨⟨"e2"⟩, ⟨"f1"⟩⟩, ⟨⟨"e1"⟩, ⟨"f1"⟩⟩, .oneToMany⟩,
        ⟨⟨"r2"⟩, ⟨⟨"e3"⟩, ⟨"f1"⟩⟩, ⟨⟨"e1"⟩, ⟨"f2"⟩⟩, .oneToMany⟩,
        ⟨⟨"r3"⟩, ⟨⟨"e3"⟩, ⟨"f2"⟩⟩, ⟨⟨"e1"⟩, ⟨"f2"⟩⟩, .oneToMany⟩] }

/-- Tables are dropped first, and referenced tables are created first. -/
def ScriptOptions.recreate : ScriptOptions where
  dialect := .sqlite
  includeDrops := true
  order := .dependencies

/-- Two relationships end at the course of an enrolment: there are two clauses on it, and one
index. -/
theorem Schema.toScript_says_everything_once_enrolments :
    ((⟨none, .standard⟩ : Validator).validate enrolments).isValid = true ∧ enrolments.Synced ∧
      (Script.ofSchema enrolments .recreate).drops = ["enrolments", "courses", "students"] ∧
      ((Script.ofSchema enrolments .recreate).tables.flatMap fun t =>
        (Script.foreignKeysOf t).map (·.column)) = ["student", "course", "course"] ∧
      (Script.ofSchema enrolments .recreate).indexes.flatten.map (·.column) =
        ["student", "course"] ∧
      Script.Spaced ((Script.ofSchema enrolments .recreate).statements.map
        (Script.Statement.text .sqlite)) (enrolments.toScript .recreate) ∧
      Script.SaysOnce enrolments .recreate (Script.ofSchema enrolments .recreate) := by
  have hvalid : ((⟨none, .standard⟩ : Validator).validate enrolments).isValid = true := by
    decide +kernel
  have hview : enrolments.Synced := synced_syncForeignKeys _
  exact ⟨hvalid, hview, by decide +kernel, by decide +kernel, by decide +kernel,
    toScript_says_everything_once hvalid hview .recreate⟩

end EntityRelation
