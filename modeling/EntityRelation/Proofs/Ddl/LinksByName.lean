import EntityRelation.Proofs.Ddl.Anonymous
import EntityRelation.Proofs.Ddl.Numbering

/-!
# Foreign keys by name

A pending foreign key is resolved by names alone: the link that it stands for (`PendingKey.link`)
is found without a look at an id. Ids come in only when a relationship is made of the link, and
where ids are distinct they lead back to it. So the links of an import, the foreign key view and
the warnings about foreign keys can be read off the tables without their ids.
-/

namespace EntityRelation

namespace Link

/-- The ends that the link joins. -/
def ends (link : Link) : Endpoint × Endpoint :=
  (⟨link.parent.id, link.parentField.id⟩, ⟨link.child.id, link.childField.id⟩)

/-- The columns that the link joins, by their names. -/
def names (link : Link) : ColumnName × ColumnName :=
  (⟨link.parent.name, link.parentField.name⟩, ⟨link.child.name, link.childField.name⟩)

/-- The link without ids and positions. -/
def anonymous (link : Link) : Link :=
  ⟨link.parent.anonymous, link.parentField.withoutId, link.child.anonymous,
    link.childField.withoutId⟩

/-- A link between columns of a schema. -/
structure InSchema (s : Schema) (link : Link) : Prop where
  parent : link.parent ∈ s.entities
  parentField : link.parentField ∈ link.parent.fields
  child : link.child ∈ s.entities
  childField : link.childField ∈ link.child.fields

end Link

/-- The two ends of a relationship. -/
def Relationship.ends (r : Relationship) : Endpoint × Endpoint :=
  (r.parent, r.child)

/-- The schema without ids and positions of its tables. -/
def Schema.anonymous (s : Schema) : Schema where
  entities := s.entities.map Entity.anonymous

theorem Schema.entityNamed?_anonymous (s : Schema) (name : String) :
    s.anonymous.entityNamed? name = (s.entityNamed? name).map Entity.anonymous := by
  rw [entityNamed?, anonymous, List.find?_map]
  rfl

namespace Ddl

namespace PendingKey

variable (key : PendingKey) (s : Schema) (child : Entity)

/-- The link that a foreign key of the table `child` stands for. -/
def link : Except WarningCause Link :=
  match child.fieldNamed? key.column with
  | none => .error (.foreignKeyOnUnknownColumn child.name key.column)
  | some childField =>
    match s.entityNamed? key.parentTable with
    | none => .error (.foreignKeyToUnknownTable child.name childField.name key.parentTable)
    | some parent =>
      match key.parentField? parent with
      | none => .error (.foreignKeyToUnknownColumn child.name childField.name parent.name)
      | some parentField => .ok ⟨parent, parentField, child, childField⟩

theorem ends_eq : key.ends s child = (key.link s child).map Link.ends := by
  rw [ends, link]
  cases child.fieldNamed? key.column with
  | none => rfl
  | some childField =>
      cases s.entityNamed? key.parentTable with
      | none => rfl
      | some parent =>
          dsimp only
          cases key.parentField? parent with
          | none => rfl
          | some parentField => rfl

variable {key s child}

theorem child_of_link {l : Link} (h : key.link s child = .ok l) : l.child = child := by
  rw [link] at h
  split at h
  · cases h
  · split at h
    · cases h
    · split at h
      · cases h
      · obtain rfl := Except.ok.inj h
        rfl

theorem inSchema_of_link {l : Link} (hchild : child ∈ s.entities) (h : key.link s child = .ok l) :
    l.InSchema s := by
  rw [link] at h
  split at h
  · cases h
  · next childField hchildField =>
    split at h
    · cases h
    · next parent hparent =>
      split at h
      · cases h
      · next parentField hparentField =>
        obtain rfl := Except.ok.inj h
        exact ⟨List.mem_of_find?_eq_some hparent, mem_of_parentField? hparentField, hchild,
          List.mem_of_find?_eq_some hchildField⟩

theorem parentField?_anonymous (key : PendingKey) (parent : Entity) :
    key.anonymous.parentField? parent.anonymous =
      (key.parentField? parent).map Field.withoutId := by
  rw [parentField?, parentField?, anonymous]
  cases key.parentColumn with
  | none =>
      dsimp only
      rw [Entity.primaryKeys_anonymous, List.getElem?_map]
  | some column => exact parent.fieldNamed?_anonymous column

/-- A foreign key is resolved without a look at an id. -/
theorem link_anonymous (key : PendingKey) (s : Schema) (child : Entity) :
    key.anonymous.link s.anonymous child.anonymous = (key.link s child).map Link.anonymous := by
  have hcolumn : key.anonymous.column = key.column := rfl
  have htable : key.anonymous.parentTable = key.parentTable := rfl
  rw [link, link, hcolumn, htable, child.fieldNamed?_anonymous, s.entityNamed?_anonymous]
  cases child.fieldNamed? key.column with
  | none => rfl
  | some childField =>
      cases s.entityNamed? key.parentTable with
      | none => rfl
      | some parent =>
          simp only [Option.map_some, parentField?_anonymous]
          cases key.parentField? parent with
          | none => rfl
          | some parentField => rfl

/-- The warning about a foreign key that stands for no link. -/
def complaint? (key : PendingKey) (s : Schema) (child : Entity) : Option Warning :=
  match key.link s child with
  | .error cause => some ⟨key.line, cause⟩
  | .ok _ => none

theorem complaint?_anonymous (key : PendingKey) (s : Schema) (child : Entity) :
    key.anonymous.complaint? s.anonymous child.anonymous = key.complaint? s child := by
  rw [complaint?, complaint?, link_anonymous]
  cases key.link s child with
  | error cause => rfl
  | ok l => rfl

end PendingKey

namespace TableDraft

/-- The links that the foreign keys of a table stand for. -/
def links (s : Schema) (t : TableDraft) : List Link :=
  t.pendingKeys.filterMap fun key => (key.link s t.entity).toOption

/-- The warnings about the foreign keys of a table. -/
def complaints (s : Schema) (t : TableDraft) : List Warning :=
  t.pendingKeys.filterMap fun key => key.complaint? s t.entity

/-- The table as it stands in the schema: its name, and its columns with what they reference. -/
def contentIn (s : Schema) (t : TableDraft) : String × List Field :=
  (t.entity.name, t.entity.fields.map fun f =>
    (Schema.viewField (((t.links s).find? (·.names.2.field == f.name)).map (·.names.1))
      f).withoutId)

variable (s : Schema) (t : TableDraft)

theorem links_anonymous : t.anonymous.links s.anonymous = (t.links s).map Link.anonymous := by
  rw [links, links, anonymous, List.filterMap_map, List.map_filterMap]
  refine List.filterMap_congr fun key _ => ?_
  rw [Function.comp_apply, key.link_anonymous]
  cases key.link s t.entity with
  | error cause => rfl
  | ok l => rfl

theorem names_anonymous :
    (t.anonymous.links s.anonymous).map Link.names = (t.links s).map Link.names := by
  rw [links_anonymous, List.map_map]
  rfl

theorem complaints_anonymous : t.anonymous.complaints s.anonymous = t.complaints s := by
  rw [complaints, complaints, anonymous, List.filterMap_map]
  exact List.filterMap_congr fun key _ => key.complaint?_anonymous s t.entity

theorem contentIn_anonymous : t.anonymous.contentIn s.anonymous = t.contentIn s := by
  rw [contentIn, contentIn, links_anonymous, anonymous]
  dsimp only
  rw [Entity.anonymous_name, Entity.anonymous_fields, List.map_map]
  congr 2
  funext f
  rw [Function.comp_apply, List.find?_map, Option.map_map]
  rfl

variable {s t}

section

variable {s s' : Schema} (h : ∀ name, s.entityNamed? name = s'.entityNamed? name)

include h

/-- Links are found by the names of tables. -/
theorem links_congr (t : TableDraft) : t.links s = t.links s' := by
  simp only [links, PendingKey.link, h]

theorem complaints_congr (t : TableDraft) : t.complaints s = t.complaints s' := by
  simp only [complaints, PendingKey.complaint?, PendingKey.link, h]

theorem contentIn_congr (t : TableDraft) : t.contentIn s = t.contentIn s' := by
  rw [contentIn, contentIn, links_congr h]

end

theorem mem_links {l : Link} (ht : t.entity ∈ s.entities) (h : l ∈ t.links s) :
    l.child = t.entity ∧ l.InSchema s := by
  obtain ⟨key, -, hkey⟩ := List.mem_filterMap.1 h
  cases hlink : key.link s t.entity with
  | error cause =>
      rw [hlink] at hkey
      cases hkey
  | ok l' =>
      rw [hlink] at hkey
      obtain rfl := Option.some.inj hkey
      exact ⟨PendingKey.child_of_link hlink, PendingKey.inSchema_of_link ht hlink⟩

end TableDraft

/-! ## The resolution of foreign keys -/

namespace Resolution

/-- The relationships come from links, and where several links have the same child end, from the
first of them. -/
structure Reads (r : Resolution) (links : List Link) (warnings : List Warning) : Prop where
  ends : ∀ p, p ∈ r.relationships.map Relationship.ends ↔ p ∈ links.map Link.ends
  first : ∀ q, (r.relationships.find? (·.child == q)).map Relationship.ends =
    (links.find? (·.ends.2 == q)).map Link.ends
  warnings : r.warnings = warnings

variable {r : Resolution} {links : List Link} {warnings : List Warning} {s : Schema}

theorem Reads.connect (h : r.Reads links warnings) (link : Link) :
    (r.connect link.ends.1 link.ends.2).Reads (links ++ [link]) warnings := by
  rw [Resolution.connect]
  split
  · -- The ends are joined already, so some link before has them, and this one is not the first.
    next hjoins =>
    obtain ⟨rel, hrel, hends⟩ := List.any_eq_true.1 hjoins
    rw [Bool.and_eq_true, beq_iff_eq, beq_iff_eq] at hends
    have hold : link.ends ∈ links.map Link.ends :=
      (h.ends _).1 (List.mem_map.2 ⟨rel, hrel, Prod.ext hends.1 hends.2⟩)
    refine ⟨fun p => ?_, fun q => ?_, h.warnings⟩
    · rw [h.ends, List.map_append, List.mem_append, List.map_singleton, List.mem_singleton]
      exact ⟨Or.inl, fun hp => hp.elim id fun hp => hp ▸ hold⟩
    · rw [h.first, List.find?_append]
      cases hfind : links.find? (·.ends.2 == q) with
      | some l => rfl
      | none =>
          obtain ⟨l, hl, hsame⟩ := List.mem_map.1 hold
          have hother := List.find?_eq_none.1 hfind l hl
          rw [hsame] at hother
          rw [Option.none_or, List.find?_singleton, if_neg hother]
  · refine ⟨fun p => ?_, fun q => ?_, h.warnings⟩
    · rw [List.map_append, List.map_append, List.mem_append, List.mem_append, h.ends]
      rfl
    · rw [List.find?_append, List.find?_append, Option.map_or, Option.map_or, h.first]
      congr 1
      rw [List.find?_singleton, List.find?_singleton]
      dsimp only
      split
      · rfl
      · rfl

theorem Reads.add (h : r.Reads links warnings) {key : PendingKey} {child : Entity}
    (hchild : s.entity? key.child = some child) :
    (r.add s key).Reads (links ++ (key.link s child).toOption.toList)
      (warnings ++ (key.complaint? s child).toList) := by
  rw [Resolution.add, hchild, PendingKey.complaint?]
  dsimp only
  rw [PendingKey.ends_eq]
  cases key.link s child with
  | error cause =>
      have hlinks : links ++ (Except.error cause : Except WarningCause Link).toOption.toList =
          links := List.append_nil links
      rw [hlinks]
      exact ⟨h.ends, h.first, congrArg (· ++ [(⟨key.line, cause⟩ : Warning)]) h.warnings⟩
  | ok link =>
      have hwarnings : warnings ++ (none : Option Warning).toList = warnings :=
        List.append_nil warnings
      exact hwarnings.symm ▸ h.connect link

/-- The keys of one table. -/
theorem Reads.foldl_add (h : r.Reads links warnings) {keys : List PendingKey} {child : Entity}
    (hkeys : ∀ key ∈ keys, s.entity? key.child = some child) :
    (keys.foldl (Resolution.add s) r).Reads
      (links ++ keys.filterMap fun key => (key.link s child).toOption)
      (warnings ++ keys.filterMap fun key => key.complaint? s child) := by
  induction keys generalizing r links warnings with
  | nil => simpa using h
  | cons key rest ih =>
      have hrest := ih (h.add (hkeys key List.mem_cons_self)) fun key' hkey' =>
        hkeys key' (List.mem_cons_of_mem key hkey')
      have hcons : ∀ {β : Type} (f : PendingKey → Option β),
          (key :: rest).filterMap f = (f key).toList ++ rest.filterMap f := by
        intro β f
        rw [List.filterMap_cons]
        cases f key with
        | none => rfl
        | some b => rfl
      rw [hcons, hcons, ← List.append_assoc, ← List.append_assoc]
      exact hrest

/-- The keys of all tables. -/
theorem Reads.foldl_tables (h : r.Reads links warnings) {tables : List TableDraft}
    (htables : ∀ t ∈ tables, ∀ key ∈ t.pendingKeys, s.entity? key.child = some t.entity) :
    ((tables.flatMap TableDraft.pendingKeys).foldl (Resolution.add s) r).Reads
      (links ++ tables.flatMap (TableDraft.links s))
      (warnings ++ tables.flatMap (TableDraft.complaints s)) := by
  induction tables generalizing r links warnings with
  | nil => simpa using h
  | cons t rest ih =>
      have hfirst := h.foldl_add (htables t List.mem_cons_self)
      have hrest := ih hfirst fun t' ht' => htables t' (List.mem_cons_of_mem t ht')
      rw [List.flatMap_cons, List.foldl_append, List.flatMap_cons, List.flatMap_cons,
        ← List.append_assoc, ← List.append_assoc]
      exact hrest

end Resolution

end Ddl

end EntityRelation
