import EntityRelation.Proofs.CreationOrder
import EntityRelation.Proofs.Schema.Lookup
import EntityRelation.Script.Render

/-!
# Parents first

The pairs that `Schema.creationOrder?` works on are read off the relationships here in words of the
schema: `Schema.Precedes` holds of two different indices when some relationship runs from the last
entity that bears its parent id to the last entity that bears its child id. The order that is found
is the least one in which every parent precedes its children. A script in this order defines a
table before any other table that references it, and drops it after that table.
-/

namespace EntityRelation

/-- One text stands before another inside a third. -/
def StandsBefore (first second whole : String) : Prop :=
  ∃ a b c, whole = a ++ first ++ b ++ second ++ c

/-- What stands before in a list stands before in the text of the list. -/
theorem standsBefore_join {α : Type} (f : α → String) {x y : α} {as : List α}
    (h : [x, y].Sublist as) (front back : String) :
    StandsBefore (f x) (f y) (front ++ String.join (as.map f) ++ back) := by
  obtain ⟨as₁, as₂, rfl, hx, hy⟩ := List.cons_sublist_iff.1 h
  obtain ⟨bs₁, bs₂, rfl⟩ := List.append_of_mem hx
  obtain ⟨cs₁, cs₂, rfl⟩ := List.append_of_mem (List.singleton_sublist.1 hy)
  refine ⟨front ++ String.join (bs₁.map f), String.join ((bs₂ ++ cs₁).map f),
    String.join (cs₂.map f) ++ back, ?_⟩
  simp [String.append_assoc]

namespace Schema

/-- The entity at an index is the last one that bears an id. -/
structure IsLast (s : Schema) (id : EntityId) (i : Nat) : Prop where
  bears : ∃ e, s.entities[i]? = some e ∧ e.id = id
  last : ∀ j e, s.entities[j]? = some e → e.id = id → j ≤ i

/-- A relationship runs from the entity at one index to the entity at another. -/
def Precedes (s : Schema) (parent child : Nat) : Prop :=
  parent ≠ child ∧
    ∃ r ∈ s.relationships, s.IsLast r.parent.entity parent ∧ s.IsLast r.child.entity child

/-- An order of the indices of all entities in which every parent precedes its children. -/
structure IsCreationOrder (s : Schema) (order : List Nat) : Prop where
  perm : order.Perm (List.range s.entities.length)
  parents_first : ∀ parent child, s.Precedes parent child → [parent, child].Sublist order

/-- The pairs that the search for an order works on. -/
def dependencyPairs (s : Schema) : List (Nat × Nat) :=
  s.dependencies.filter fun edge => edge.1 != edge.2

variable (s : Schema)

theorem IsLast.lt {s : Schema} {id : EntityId} {i : Nat} (h : s.IsLast id i) :
    i < s.entities.length := by
  obtain ⟨e, he, -⟩ := h.bears
  exact (List.getElem?_eq_some_iff.1 he).1

theorem IsLast.unique {s : Schema} {id : EntityId} {i j : Nat} (hi : s.IsLast id i)
    (hj : s.IsLast id j) : i = j := by
  obtain ⟨e, he, hid⟩ := hi.bears
  obtain ⟨e', he', hid'⟩ := hj.bears
  exact le_antisymm (hj.last i e he hid) (hi.last j e' he' hid')

/-- The last element with a property, read from the back of the numbered list. -/
theorem find?_zipIdx_reverse {α : Type} (p : α → Bool) (as : List α) (i : Nat) :
    (as.zipIdx.reverse.find? fun a => p a.1).map (·.2) = some i ↔
      (∃ a, as[i]? = some a ∧ p a) ∧ ∀ j a, as[j]? = some a → p a → j ≤ i := by
  induction as using List.reverseRecOn with
  | nil => simp
  | append_singleton as a ih =>
      rw [List.zipIdx_append, List.reverse_append]
      simp only [Nat.zero_add, List.zipIdx_singleton, List.reverse_cons, List.reverse_nil,
        List.nil_append, List.singleton_append]
      by_cases ha : p a
      · simp only [List.find?_cons, ha, Option.map_some, Option.some.injEq]
        constructor
        · rintro rfl
          refine ⟨⟨a, by simp, ha⟩, fun j b hb _ => ?_⟩
          have := (List.getElem?_eq_some_iff.1 hb).1
          simp only [List.length_append, List.length_singleton] at this
          omega
        · rintro ⟨⟨b, hb, -⟩, hlast⟩
          have hlen := (List.getElem?_eq_some_iff.1 hb).1
          have := hlast as.length a (by simp) ha
          simp only [List.length_append, List.length_singleton] at hlen
          omega
      · simp only [List.find?_cons, ha]
        rw [ih]
        have hget : ∀ (j : Nat) (b : α), p b → ((as ++ [a])[j]? = some b ↔ as[j]? = some b) := by
          intro j b hb
          rcases Nat.lt_trichotomy j as.length with hj | hj | hj
          · rw [List.getElem?_append_left hj]
          · subst hj
            simp only [List.getElem?_concat_length, Option.some.injEq]
            constructor
            · rintro rfl
              exact absurd hb ha
            · intro hb'
              simp at hb'
          · have h1 : (as ++ [a])[j]? = none := by simp; omega
            have h2 : as[j]? = none := by simp; omega
            rw [h1, h2]
        constructor
        · rintro ⟨⟨b, hb, hpb⟩, hlast⟩
          exact ⟨⟨b, (hget i b hpb).2 hb, hpb⟩, fun j c hc hpc => hlast j c ((hget j c hpc).1 hc) hpc⟩
        · rintro ⟨⟨b, hb, hpb⟩, hlast⟩
          exact ⟨⟨b, (hget i b hpb).1 hb, hpb⟩, fun j c hc hpc => hlast j c ((hget j c hpc).2 hc) hpc⟩

theorem lastIndex?_eq_some_iff (id : EntityId) (i : Nat) :
    s.lastIndex? id = some i ↔ s.IsLast id i := by
  have h := find?_zipIdx_reverse (fun e : Entity => e.id == id) s.entities i
  simp only [beq_iff_eq] at h
  exact h.trans ⟨fun ⟨hb, hl⟩ => ⟨hb, hl⟩, fun ⟨hb, hl⟩ => ⟨hb, hl⟩⟩

theorem mem_dependencyPairs (parent child : Nat) :
    (parent, child) ∈ s.dependencyPairs ↔ s.Precedes parent child := by
  simp only [dependencyPairs, dependencies, List.mem_filter, List.mem_filterMap, bind,
    Option.bind_eq_some_iff, pure, Option.some.injEq, Prod.mk.injEq, bne_iff_ne, Precedes,
    lastIndex?_eq_some_iff]
  constructor
  · rintro ⟨⟨r, hr, p, hp, c, hc, rfl, rfl⟩, hne⟩
    exact ⟨hne, r, hr, hp, hc⟩
  · rintro ⟨hne, r, hr, hp, hc⟩
    exact ⟨⟨r, hr, parent, hp, child, hc, rfl, rfl⟩, hne⟩

theorem follows_dependencyPairs : CreationOrder.Follows s.dependencyPairs = s.Precedes := by
  funext parent child
  exact propext (s.mem_dependencyPairs parent child)

theorem dependencyPairs_bounded :
    CreationOrder.Bounded s.entities.length s.dependencyPairs := by
  rintro ⟨parent, child⟩ hmem
  obtain ⟨-, r, -, hp, hc⟩ := (s.mem_dependencyPairs parent child).1 hmem
  exact ⟨hp.lt, hc.lt⟩

theorem isOrder_iff (order : List Nat) :
    CreationOrder.IsOrder s.entities.length s.dependencyPairs order ↔
      s.IsCreationOrder order := by
  constructor
  · intro h
    exact ⟨h.perm, fun p c hpc => h.before (p, c) ((s.mem_dependencyPairs p c).2 hpc)⟩
  · intro h
    exact ⟨h.perm, fun ⟨p, c⟩ hpc => h.parents_first p c ((s.mem_dependencyPairs p c).1 hpc)⟩

theorem creationOrder?_eq_none_iff :
    s.creationOrder? = none ↔ ∃ i, Relation.TransGen s.Precedes i i := by
  rw [← follows_dependencyPairs]
  exact CreationOrder.find?_eq_none_iff s.dependencyPairs_bounded

theorem creationOrder?_isCreationOrder {order : List Nat} (h : s.creationOrder? = some order) :
    s.IsCreationOrder order :=
  (s.isOrder_iff order).1 (CreationOrder.find?_isOrder s.dependencyPairs_bounded h)

theorem creationOrder?_le {order other : List Nat} (h : s.creationOrder? = some order)
    (ho : s.IsCreationOrder other) : order ≤ other :=
  CreationOrder.find?_le s.dependencyPairs_bounded h ((s.isOrder_iff other).2 ho)

/-! ## The order of a script -/

end Schema

namespace Script

open Schema

/-- The elements of a list at all its indices in turn. -/
theorem filterMap_getElem?_range {α : Type} (as : List α) :
    (List.range as.length).filterMap (as[·]?) = as := by
  induction as with
  | nil => rfl
  | cons a as ih =>
      rw [List.length_cons, List.range_succ_eq_map, List.filterMap_cons]
      simp only [List.getElem?_cons_zero, List.filterMap_map]
      exact congrArg (a :: ·) (by simpa [Function.comp_def] using ih)

/-- A script defines every entity of the schema once. -/
theorem orderedEntities_perm (s : Schema) (order : TableOrder) :
    (orderedEntities s order).Perm s.entities := by
  cases order with
  | insertion => exact List.Perm.refl _
  | dependencies =>
      simp only [orderedEntities]
      cases h : s.creationOrder? with
      | none => exact List.Perm.refl _
      | some order =>
          have hperm := (s.creationOrder?_isCreationOrder h).perm.filterMap (s.entities[·]?)
          rwa [filterMap_getElem?_range] at hperm

variable {s : Schema}

/-- A relationship between different entities defines its parent before its child. -/
theorem parent_before_child (hids : (s.entities.map (·.id)).Nodup)
    (hac : ¬ ∃ i, Relation.TransGen s.Precedes i i) {r : Relationship} (hr : r ∈ s.relationships)
    {link : Link} (hlink : s.resolve? r = some link) (hne : link.parent ≠ link.child) :
    [link.parent, link.child].Sublist (orderedEntities s .dependencies) := by
  obtain ⟨hp, hc⟩ := (resolve?_eq_some_iff r link).1 hlink
  have hparent := ((endpoint?_eq_some_iff r.parent).1 hp).1
  have hchild := ((endpoint?_eq_some_iff r.child).1 hc).1
  have hlast : ∀ {id : EntityId} {e : Entity}, s.entity? id = some e →
      ∃ i, s.entities[i]? = some e ∧ s.IsLast id i := by
    intro id e he
    obtain ⟨i, hi⟩ := List.getElem?_of_mem (mem_of_entity? he)
    refine ⟨i, hi, ⟨e, hi, id_of_entity? he⟩, fun j e' hj hid => le_of_eq ?_⟩
    refine (List.getElem?_inj (by simpa using (List.getElem?_eq_some_iff.1 hj).1) hids).1 ?_
    rw [List.getElem?_map, List.getElem?_map, hj, hi]
    simp [hid, id_of_entity? he]
  obtain ⟨i, hi, hilast⟩ := hlast hparent
  obtain ⟨j, hj, hjlast⟩ := hlast hchild
  have hij : i ≠ j := by
    rintro rfl
    exact hne (Option.some.inj (hi.symm.trans hj))
  cases horder : s.creationOrder? with
  | none => exact absurd (s.creationOrder?_eq_none_iff.1 horder) hac
  | some order =>
      have hsub := (s.creationOrder?_isCreationOrder horder).parents_first i j
        ⟨hij, r, hr, hilast, hjlast⟩
      have hmap := hsub.filterMap (s.entities[·]?)
      simpa [orderedEntities, horder, hi, hj] using hmap

/-- A script defines one entity before another and, if it drops tables, drops it after the
other. -/
structure DefinesBefore (s : Schema) (options : ScriptOptions) (first second : Entity) : Prop where
  tables : [TableDefinition.ofEntity s options first,
    TableDefinition.ofEntity s options second].Sublist (ofSchema s options).tables
  drops : options.includeDrops →
    [second.name, first.name].Sublist (ofSchema s options).drops
  definition_text : StandsBefore
    (renderTable options.dialect (TableDefinition.ofEntity s options first))
    (renderTable options.dialect (TableDefinition.ofEntity s options second))
    (s.toScript options)
  drop_text : options.includeDrops → StandsBefore (renderDrop options.dialect second.name)
    (renderDrop options.dialect first.name) (s.toScript options)

theorem definesBefore_of_sublist (options : ScriptOptions) {first second : Entity}
    (h : [first, second].Sublist (orderedEntities s options.order)) :
    DefinesBefore s options first second := by
  have hreverse : [second, first].Sublist (orderedEntities s options.order).reverse := by
    simpa using h.reverse
  refine ⟨h.map _, ?_, ?_, ?_⟩
  · intro hdrops
    simpa [ofSchema, hdrops] using hreverse.map Entity.name
  · have := standsBefore_join (fun e => renderTable options.dialect
      (TableDefinition.ofEntity s options e)) h
    simpa [Schema.toScript, render, ofSchema, Function.comp_def] using this _ _
  · intro hdrops
    have hbefore := standsBefore_join (fun e : Entity => renderDrop options.dialect e.name)
      hreverse "" ("\n" ++ String.join ((ofSchema s options).tables.map
        (renderTable options.dialect)) ++ String.join ((ofSchema s options).indexes.map
        fun indexes => paragraph (indexes.map (renderIndex options.dialect))))
    have hne : (orderedEntities s options.order).isEmpty = false := by
      cases hnil : orderedEntities s options.order with
      | nil =>
          rw [hnil] at h
          cases h
      | cons e rest => rfl
    have htext : s.toScript options = "" ++ String.join
        ((orderedEntities s options.order).reverse.map fun e =>
          renderDrop options.dialect e.name) ++ ("\n" ++ String.join
        ((ofSchema s options).tables.map (renderTable options.dialect)) ++
        String.join ((ofSchema s options).indexes.map fun indexes =>
          paragraph (indexes.map (renderIndex options.dialect)))) := by
      simp [Schema.toScript, render, ofSchema, hdrops, paragraph, hne, Function.comp_def,
        String.append_assoc]
    rw [htext]
    exact hbefore

/-- A foreign key of a definition comes from a relationship that ends in the entity. -/
theorem exists_of_mem_foreignKeys (hids : (s.entities.map (·.id)).Nodup)
    {options : ScriptOptions} {e : Entity} (he : e ∈ s.entities) {k : ForeignKeyDefinition}
    (hk : k ∈ (TableDefinition.ofEntity s options e).foreignKeys) :
    ∃ r ∈ s.relationships, ∃ link, s.resolve? r = some link ∧ link.child = e ∧
      k = ForeignKeyDefinition.ofLink link := by
  simp only [TableDefinition.ofEntity, List.mem_map, List.mem_filterMap, incoming,
    List.mem_filter, beq_iff_eq] at hk
  obtain ⟨link, ⟨r, ⟨hr, hend⟩, hlink⟩, rfl⟩ := hk
  exact ⟨r, hr, link, hlink, child_eq_of_resolve? hids he hlink hend, rfl⟩

end Script

/-! ## The least order and what a script makes of it -/

/-- `Schema.creationOrder?` fails exactly when tables depend on each other in a circle; otherwise it
is the least order in which every parent precedes its children, and no counter of the search is
lowered below zero. A script in this order, of a schema without a circle whose ids are distinct,
defines the table that a foreign key references before the table with the foreign key, and drops
it after that table, unless a table references itself. -/
theorem creationOrder?_least (s : Schema) :
    (s.creationOrder? = none ↔ ∃ i, Relation.TransGen s.Precedes i i) ∧
    (∀ order, s.creationOrder? = some order →
      s.IsCreationOrder order ∧ ∀ other, s.IsCreationOrder other → order ≤ other) ∧
    (CreationOrder.run? s.dependencyPairs s.entities.length
        (CreationOrder.start s.entities.length s.dependencyPairs) =
      some (CreationOrder.run s.dependencyPairs s.entities.length
        (CreationOrder.start s.entities.length s.dependencyPairs))) ∧
    ((s.entities.map (·.id)).Nodup → (¬ ∃ i, Relation.TransGen s.Precedes i i) →
      ∀ options : ScriptOptions, options.order = .dependencies →
        ∀ t ∈ (Script.ofSchema s options).tables, ∀ k ∈ t.foreignKeys,
          ∃ child ∈ s.entities, ∃ parent ∈ s.entities,
            t = TableDefinition.ofEntity s options child ∧ k.table = parent.name ∧
              k.referenced ∈ parent.fields.map Field.name ∧
              (parent = child ∨ Script.DefinesBefore s options parent child)) := by
  refine ⟨s.creationOrder?_eq_none_iff, ?_, ?_, ?_⟩
  · intro order horder
    exact ⟨s.creationOrder?_isCreationOrder horder, fun other => s.creationOrder?_le horder⟩
  · exact CreationOrder.run?_start s.dependencyPairs_bounded
  · intro hids hac options horder t ht k hk
    obtain ⟨e, he, rfl⟩ := List.mem_map.1 ht
    have hmem : e ∈ s.entities := (Script.orderedEntities_perm s options.order).subset he
    obtain ⟨r, hr, link, hlink, rfl, rfl⟩ := Script.exists_of_mem_foreignKeys hids hmem hk
    have hend := (Schema.resolve?_eq_some_iff r link).1 hlink
    obtain ⟨hparent, hfield⟩ := (Schema.endpoint?_eq_some_iff r.parent).1 hend.1
    refine ⟨link.child, hmem, link.parent, Schema.mem_of_entity? hparent, rfl, rfl,
      List.mem_map_of_mem (Entity.mem_of_field? hfield), ?_⟩
    by_cases hne : link.parent = link.child
    · exact Or.inl hne
    · refine Or.inr (Script.definesBefore_of_sublist options ?_)
      rw [horder]
      exact Script.parent_before_child hids hac hr hlink hne

/-- Orders reference the customer who placed them, and a customer references the one who brought
them in. -/
def Schema.shop : Schema where
  entities :=
    [{ id := ⟨"e1"⟩
       name := "orders"
       fields := [{ id := ⟨"f1"⟩, name := "id", dataType := "SERIAL", isPrimaryKey := true },
         { id := ⟨"f2"⟩, name := "customer_id", dataType := "INT" }]
       position := .origin },
     { id := ⟨"e2"⟩
       name := "customers"
       fields := [{ id := ⟨"f1"⟩, name := "id", dataType := "SERIAL", isPrimaryKey := true },
         { id := ⟨"f2"⟩, name := "referrer_id", dataType := "INT" }]
       position := .origin }]
  relationships :=
    [⟨⟨"r1"⟩, ⟨⟨"e2"⟩, ⟨"f1"⟩⟩, ⟨⟨"e1"⟩, ⟨"f2"⟩⟩, .oneToMany⟩,
      ⟨⟨"r2"⟩, ⟨⟨"e2"⟩, ⟨"f1"⟩⟩, ⟨⟨"e2"⟩, ⟨"f2"⟩⟩, .oneToMany⟩]

/-- The tables of the shop do not depend on each other in a circle, and its script defines
customers before orders. -/
theorem creationOrder?_least_shop :
    Schema.shop.creationOrder? = some [1, 0] ∧ (Schema.shop.entities.map (·.id)).Nodup ∧
      (¬ ∃ i, Relation.TransGen Schema.shop.Precedes i i) ∧
      ∀ t ∈ (Script.ofSchema Schema.shop ⟨.postgreSql, false, true, .dependencies⟩).tables,
        ∀ k ∈ t.foreignKeys, ∃ child ∈ Schema.shop.entities, ∃ parent ∈ Schema.shop.entities,
          t = TableDefinition.ofEntity Schema.shop ⟨.postgreSql, false, true, .dependencies⟩ child ∧
            k.table = parent.name ∧ k.referenced ∈ parent.fields.map Field.name ∧
            (parent = child ∨
              Script.DefinesBefore Schema.shop ⟨.postgreSql, false, true, .dependencies⟩
                parent child) := by
  have horder : Schema.shop.creationOrder? = some [1, 0] := by decide
  have hids : (Schema.shop.entities.map (·.id)).Nodup := by decide
  have hac : ¬ ∃ i, Relation.TransGen Schema.shop.Precedes i i := by
    rw [← (creationOrder?_least Schema.shop).1, horder]
    exact Option.some_ne_none _
  exact ⟨horder, hids, hac, (creationOrder?_least Schema.shop).2.2.2 hids hac _ rfl⟩

end EntityRelation
