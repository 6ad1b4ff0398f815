import EntityRelation.Proofs.Ddl.GainedKeys
import EntityRelation.Proofs.Ddl.TablesByName

/-!
# What gained keys come to

All foreign keys of one column to one target stand for the same link, or for none
(`PendingKey.link?_of_isTo`). So however many of them a draft has gained and wherever they are among
the pending keys, its relationships come from that link and the links of the other keys
(`Draft.Gains.linkedBy`), as long as the column has no other link. Two drafts that have gained keys
of the same column to the same target thus end as the same schema, but for the order and the ids of
the relationships.
-/

namespace EntityRelation

namespace Ddl

/-! ## The target of a foreign key -/

/-- The column of its table that a foreign key to the target references. -/
def ForeignTarget.fieldIn? (target : ForeignTarget) (parent : Entity) : Option Field :=
  match target.column with
  | some column => parent.fieldNamed? column
  | none => parent.primaryKeys.head?

/-- The column that a foreign key to the target references, with its table. -/
def ForeignTarget.field? (target : ForeignTarget) (s : Schema) : Option (Entity × Field) :=
  (s.entityNamed? target.table).bind fun parent => (target.fieldIn? parent).map (parent, ·)

/-- The name of the column that a foreign key to the target references. -/
def ForeignTarget.column? (target : ForeignTarget) (s : Schema) : Option ColumnName :=
  (target.field? s).map fun (parent, field) => ⟨parent.name, field.name⟩

/-- The link from a column to the target. -/
def ForeignTarget.link? (target : ForeignTarget) (s : Schema) (child : Entity) (field : Field) :
    Option Link :=
  (target.field? s).map fun (parent, parentField) => ⟨parent, parentField, child, field⟩

namespace PendingKey

/-- The link that a foreign key stands for in a schema. -/
def link? (s : Schema) (key : PendingKey) : Option Link :=
  (s.entity? key.child).bind fun child => (key.link s child).toOption

variable {s : Schema} {key : PendingKey} {child : Entity} {field : Field} {column : String}
  {target : ForeignTarget}

theorem inSchema_of_link? {link : Link} (h : key.link? s = some link) : link.InSchema s := by
  obtain ⟨child, hchild, hlink⟩ := Option.bind_eq_some_iff.1 h
  cases hkey : key.link s child with
  | error cause =>
      rw [hkey] at hlink
      cases hlink
  | ok l =>
      rw [hkey] at hlink
      obtain rfl := Option.some.inj hlink
      exact inSchema_of_link (Schema.mem_of_entity? hchild) hkey

/-- The foreign keys of a column to a target all stand for the same link. -/
theorem link?_of_isTo (hchild : s.entity? child.id = some child)
    (hfield : child.fieldNamed? column = some field)
    (hkey : key.isTo child.id column target = true) :
    key.link? s = target.link? s child field := by
  simp only [isTo, Bool.and_eq_true, beq_iff_eq] at hkey
  obtain ⟨⟨⟨⟨hid, hname⟩, htable⟩, hcolumn⟩, hindex⟩ := hkey
  have hparent : ∀ parent, key.parentField? parent = target.fieldIn? parent := by
    intro parent
    rw [parentField?, ForeignTarget.fieldIn?, hcolumn, hindex]
    cases target.column with
    | none => exact List.head?_eq_getElem?.symm
    | some x => rfl
  rw [link?, hid, hchild, Option.bind_some, link, child.fieldNamed?_congr hname, hfield,
    htable, ForeignTarget.link?, ForeignTarget.field?]
  cases s.entityNamed? target.table with
  | none => rfl
  | some parent =>
      dsimp only
      rw [hparent, Option.bind_some]
      cases target.fieldIn? parent with
      | none => rfl
      | some parentField => rfl

end PendingKey

/-! ## The links of a draft -/

namespace Resolution

variable {r : Resolution} {links : List Link} {warnings : List Warning} {s : Schema}

/-- Foreign keys of any tables. -/
theorem Reads.foldl_keys (h : r.Reads links warnings) (keys : List PendingKey) :
    ∃ warnings, (keys.foldl (Resolution.add s) r).Reads
      (links ++ keys.filterMap (PendingKey.link? s)) warnings := by
  induction keys generalizing r links warnings with
  | nil => exact ⟨warnings, by simpa using h⟩
  | cons key rest ih =>
      have hfirst : ∃ warnings, (r.add s key).Reads (links ++ (key.link? s).toList) warnings := by
        cases hchild : s.entity? key.child with
        | none =>
            rw [Resolution.add, PendingKey.link?, hchild]
            exact ⟨warnings, by simpa using h⟩
        | some child =>
            rw [PendingKey.link?, hchild]
            exact ⟨_, h.add hchild⟩
      obtain ⟨_, hfirst⟩ := hfirst
      obtain ⟨_, hrest⟩ := ih hfirst
      have hcons : (key :: rest).filterMap (PendingKey.link? s) =
          (key.link? s).toList ++ rest.filterMap (PendingKey.link? s) := by
        rw [List.filterMap_cons]
        cases key.link? s with
        | none => rfl
        | some link => rfl
      rw [List.foldl_cons, hcons, ← List.append_assoc]
      exact ⟨_, hrest⟩

end Resolution

namespace PendingKey

variable {own : PendingKey → Bool} {keys keys' : List PendingKey} {s : Schema}
  {link : Option Link}

/-- The links of a list of keys with those of the `own` keys as one link in front. -/
def linksBehind (s : Schema) (own : PendingKey → Bool) (link : Option Link)
    (keys : List PendingKey) : List Link :=
  link.toList ++ (keys.filter (!own ·)).filterMap (link? s)

variable (h : Gained own keys keys') (hown : ∀ key, own key = true → key.link? s = link)

include h hown

theorem mem_links_gained {l : Link} :
    l ∈ keys'.filterMap (link? s) ↔ l ∈ linksBehind s own link keys := by
  rw [linksBehind, ← h.others, List.mem_append, Option.mem_toList, List.mem_filterMap,
    List.mem_filterMap]
  constructor
  · rintro ⟨key, hkey, hl⟩
    cases hmine : own key with
    | true => exact .inl (hown key hmine ▸ hl)
    | false => exact .inr ⟨key, List.mem_filter.2 ⟨hkey, by rw [hmine]; rfl⟩, hl⟩
  · rintro (hl | ⟨key, hkey, hl⟩)
    · obtain ⟨key, hkey, hmine⟩ := h.gained
      exact ⟨key, hkey, (hown key hmine).trans hl⟩
    · exact ⟨key, List.mem_of_mem_filter hkey, hl⟩

/-- A search that passes over the link of the `own` keys does not see them. -/
theorem find?_links_gained {p : Link → Bool} (hp : ∀ l ∈ link, p l = false) :
    (keys'.filterMap (link? s)).find? p =
      ((keys.filter (!own ·)).filterMap (link? s)).find? p := by
  rw [← h.others, List.find?_filterMap, List.find?_filterMap, List.find?_filter]
  refine congrArg (·.bind (link? s)) (List.find?_congr fun key _ => ?_)
  cases hmine : own key with
  | true =>
      have hnone : (link? s key).any p = false := by
        rw [hown key hmine]
        cases hlink : link with
        | none => rfl
        | some l => exact hp l hlink
      simp [hnone]
  | false => simp

theorem reads_gained {r : Resolution} {warnings : List Warning}
    (hreads : r.Reads (keys'.filterMap (link? s)) warnings)
    (hother : ∀ l ∈ linksBehind s own link keys, ∀ l' ∈ link, l.ends.2 = l'.ends.2 →
      l.ends = l'.ends) :
    r.Reads (linksBehind s own link keys) warnings := by
  have hmem := fun l => mem_links_gained (l := l) h hown
  refine ⟨fun p => ?_, fun q => ?_, hreads.warnings⟩
  · rw [hreads.ends, List.mem_map, List.mem_map]
    simp only [hmem]
  · rw [hreads.first]
    by_cases hq : ∃ l ∈ link, l.ends.2 = q
    · obtain ⟨l, rfl, rfl⟩ := hq
      -- The first link to the end is a link of an `own` key or tells the same.
      have hsome : ((keys'.filterMap (link? s)).find? (·.ends.2 == l.ends.2)).isSome :=
        List.find?_isSome.2 ⟨l, (hmem l).2 List.mem_cons_self, beq_self_eq_true l.ends.2⟩
      obtain ⟨first, hfirst⟩ := Option.isSome_iff_exists.1 hsome
      have hend := List.find?_some hfirst
      have hends := hother first ((hmem first).1 (List.mem_of_find?_eq_some hfirst)) l rfl
        (beq_iff_eq.1 hend)
      have hhead : (linksBehind s own (some l) keys).find? (·.ends.2 == l.ends.2) = some l :=
        List.find?_cons_of_pos (beq_self_eq_true l.ends.2)
      rw [hfirst, hhead, Option.map_some, Option.map_some, hends]
    · have hnone : ∀ l ∈ link, (l.ends.2 == q) = false := fun l hl =>
        beq_eq_false_iff_ne.2 fun heq => hq ⟨l, hl, heq⟩
      have hskip : link.toList.find? (·.ends.2 == q) = none :=
        List.find?_eq_none.2 fun l hl => Bool.eq_false_iff.1 (hnone l (Option.mem_toList.1 hl))
      rw [find?_links_gained h hown hnone, linksBehind, List.find?_append, hskip, Option.none_or]

end PendingKey

namespace Draft

variable {d d' : Draft} {links : List Link}

/-- The relationships of a draft come from its keys. -/
theorem Numbered.linkedBy (h : d.Numbered) :
    d.LinkedBy (d.pendingKeys.filterMap (PendingKey.link? d.schema)) := by
  have hempty : Resolution.Reads {} [] [] := ⟨fun _ => Iff.rfl, fun _ => rfl, rfl⟩
  refine ⟨⟨h.entityIds, fun e he => h.fieldIds he⟩, fun link hlink => ?_,
    hempty.foldl_keys d.pendingKeys⟩
  obtain ⟨key, -, hkey⟩ := List.mem_filterMap.1 hlink
  exact PendingKey.inSchema_of_link? hkey

/-- The relationships of a draft that has gained keys. -/
theorem Gains.linkedBy {own : PendingKey → Bool} {link : Option Link} (h : d.Gains own d')
    (hnumbered : d'.Numbered) (hown : ∀ key, own key = true → key.link? d.schema = link)
    (hother : ∀ l ∈ PendingKey.linksBehind d.schema own link d.pendingKeys, ∀ l' ∈ link,
      l.ends.2 = l'.ends.2 → l.ends = l'.ends) :
    d'.LinkedBy (PendingKey.linksBehind d.schema own link d.pendingKeys) := by
  obtain ⟨hids, hinSchema, warnings, hreads⟩ := hnumbered.linkedBy
  rw [h.schema_eq] at hinSchema hreads
  refine ⟨hids, fun l hl => ?_, warnings, PendingKey.reads_gained h.keys hown hreads hother⟩
  rw [h.schema_eq]
  exact hinSchema l ((PendingKey.mem_links_gained h.keys hown).2 hl)

/-- Drafts with the same tables and the same links give the same tables. -/
theorem LinkedBy.entities_eq (h : d.LinkedBy links) (h' : d'.LinkedBy links)
    (hentities : d'.entities = d.entities) :
    d'.linked.syncForeignKeys.entities = d.linked.syncForeignKeys.entities := by
  have hids : d.linked.DistinctIds := ⟨h.ids.entities, h.ids.fields⟩
  have hids' : d'.linked.DistinctIds := ⟨h'.ids.entities, h'.ids.fields⟩
  have hview : d'.linked.view = d.linked.view := by
    funext p
    rw [h.view_linked, h'.view_linked]
  rw [Schema.syncForeignKeys_eq hids, Schema.syncForeignKeys_eq hids', Schema.mapEnds,
    Schema.mapEnds, hview, linked, linked, hentities]

end Draft

end Ddl

end EntityRelation
