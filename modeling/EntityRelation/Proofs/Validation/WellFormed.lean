import EntityRelation.Proofs.Schema.WellFormed
import EntityRelation.Proofs.Text.Numeral
import EntityRelation.Validation.Validator

/-!
# What the validator finds in a well-formed schema

The validator folds names by the full Unicode lower case, edits by ASCII case. On trimmed ASCII
names the two agree (`nameKey_eq_foldAscii`), so the names of a well-formed schema cannot clash for
the validator either. What remains is a table without a primary key, or a name of a table that
breaks the rules for names.
-/

namespace EntityRelation

/-- A text of ASCII characters. -/
def Text.IsAscii (name : String) : Prop :=
  ∀ c ∈ name.toList, c.toNat < 128

instance (name : String) : Decidable (Text.IsAscii name) :=
  List.decidableBAll _ name.toList

namespace Text

theorem lowerAfter_ascii (cs : List Char) (h : ∀ c ∈ cs, c.toNat < 128) (before : List Char) :
    lowerAfter before cs = cs.map Char.toLower := by
  induction cs generalizing before with
  | nil => rfl
  | cons c rest ih =>
      have hc : c.toNat < 128 := h c List.mem_cons_self
      have hsigma : c ≠ 'Σ' := by
        rintro rfl
        exact absurd hc (by decide)
      rw [lowerAfter, if_neg hsigma, lowerChar, if_pos hc,
        ih (fun d hd => h d (List.mem_cons_of_mem c hd))]
      rfl

end Text

theorem nameKey_eq_foldAscii {name : String} (h : IsName name) (hascii : Text.IsAscii name) :
    nameKey name = Text.foldAscii name := by
  have htrim : Text.trim name.toList = name.toList := by
    have h' := congrArg String.toList h.trimmed
    rwa [Text.trimmed, String.toList_ofList] at h'
  rw [nameKey, htrim]
  exact Text.lowerAfter_ascii _ hascii _

theorem nameKey_ne_nil {name : String} (h : IsName name) (hascii : Text.IsAscii name) :
    nameKey name ≠ [] := by
  rw [nameKey_eq_foldAscii h hascii, Text.foldAscii, Ne, List.map_eq_nil_iff,
    String.toList_eq_nil_iff]
  have hne := h.nonempty
  rintro rfl
  simp at hne

/-- What is found after some elements is found at one of them, given those before it. -/
theorem mem_flatMapAfter {α β : Type} {f : List α → α → List β} {b : β} {before as : List α} :
    b ∈ flatMapAfter f before as ↔
      ∃ front a back, as = front ++ a :: back ∧ b ∈ f (front.reverse ++ before) a := by
  induction as generalizing before with
  | nil => simp [flatMapAfter]
  | cons a rest ih =>
      rw [flatMapAfter, List.mem_append, ih]
      constructor
      · rintro (hhere | ⟨front, a', back, rfl, hfound⟩)
        · exact ⟨[], a, rest, rfl, hhere⟩
        · exact ⟨a :: front, a', back, rfl, by simpa using hfound⟩
      · rintro ⟨front, a', back, hlist, hfound⟩
        cases front with
        | nil =>
            obtain ⟨rfl, rfl⟩ := List.cons.inj hlist
            exact Or.inl hfound
        | cons b front =>
            obtain ⟨rfl, rfl⟩ := List.cons.inj hlist
            exact Or.inr ⟨front, a', back, rfl, by simpa using hfound⟩

/-- Where keys are distinct, no earlier element has the key of an element. -/
theorem key_ne_of_mem_front {α κ : Type} (key : α → κ) {front back : List α} {a : α}
    (h : ((front ++ a :: back).map key).Nodup) {b : α} (hb : b ∈ front.reverse ++ []) :
    key b ≠ key a := by
  rw [List.map_append, List.map_cons] at h
  have hfront : b ∈ front := by simpa using hb
  have hmem : key b ∈ front.map key := List.mem_map_of_mem hfront
  exact fun heq => List.disjoint_of_nodup_append h hmem (heq ▸ List.mem_cons_self)

theorem any_key_front {α κ : Type} [BEq κ] [LawfulBEq κ] (key : α → κ) {front back : List α} {a : α}
    (h : ((front ++ a :: back).map key).Nodup) :
    (front.reverse ++ []).any (fun b => key b == key a) = false :=
  List.any_eq_false.2 fun _ hb hsame => key_ne_of_mem_front key h hb (eq_of_beq hsame)

theorem exists_of_countP_eq_one {α : Type} {p : α → Bool} {as : List α}
    (h : as.countP p == 1) : ∃ a ∈ as, p a := by
  refine List.countP_pos_iff.1 ?_
  rw [eq_of_beq h]
  exact Nat.one_pos

namespace Schema

/-- The names of all tables and columns are ASCII texts. -/
def AsciiNames (s : Schema) : Prop :=
  ∀ e ∈ s.entities, Text.IsAscii e.name ∧ ∀ f ∈ e.fields, Text.IsAscii f.name

end Schema

namespace Validator

variable {s : Schema} {issue : Issue}

theorem entityErrors_of_wellFormed (v : Validator) (hs : s.WellFormed) (hascii : s.AsciiNames)
    (h : issue ∈ flatMapAfter v.entityErrors [] s.entities) :
    ∃ table fault, issue = .invalidEntityName table fault := by
  obtain ⟨front, e, back, hlist, h⟩ := mem_flatMapAfter.1 h
  have hids := hs.entityIds
  have hnames := hs.entityNames_distinct
  rw [hlist] at hids hnames
  have hmem : ∀ e' ∈ front.reverse ++ [], e' ∈ s.entities := by
    intro e' he'
    rw [hlist]
    exact List.mem_append_left _ (by simpa using he')
  have he : e ∈ s.entities := by simp [hlist]
  rcases List.mem_append.1 h with h | hname
  · rcases List.mem_append.1 h with hid | hfault
    · rw [any_key_front (fun e : Entity => e.id) hids, if_neg Bool.false_ne_true] at hid
      cases hid
    · obtain ⟨fault, -, rfl⟩ := List.mem_map.1 hfault
      exact ⟨_, fault, rfl⟩
  · split at hname
    · next hcount =>
        obtain ⟨e', he', hsame⟩ := exists_of_countP_eq_one (Bool.and_eq_true_iff.1 hcount).2
        have hkey := eq_of_beq hsame
        rw [nameKey_eq_foldAscii (hs.entityNames e' (hmem e' he')) (hascii e' (hmem e' he')).1,
          nameKey_eq_foldAscii (hs.entityNames e he) (hascii e he).1] at hkey
        exact absurd hkey
          (key_ne_of_mem_front (fun e : Entity => Text.foldAscii e.name) hnames he')
    · cases hname

theorem columnErrors_of_wellFormed (hs : s.WellFormed) (hascii : s.AsciiNames) {e : Entity}
    (he : e ∈ s.entities) (h : issue ∈ columnErrors e) :
    ∃ table, issue = .missingPrimaryKey table := by
  rcases List.mem_append.1 h with h | hkey
  · obtain ⟨front, f, back, hlist, h⟩ := mem_flatMapAfter.1 h
    have hids := hs.fieldIds e he
    have hnames := hs.fieldNames_distinct e he
    rw [hlist] at hids hnames
    have hmem : ∀ f' ∈ front.reverse ++ [], f' ∈ e.fields := by
      intro f' hf'
      rw [hlist]
      exact List.mem_append_left _ (by simpa using hf')
    have hf : f ∈ e.fields := by simp [hlist]
    rcases List.mem_append.1 h with hid | hname
    · rw [any_key_front (fun f : Field => f.id) hids, if_neg Bool.false_ne_true] at hid
      cases hid
    · have hne := nameKey_ne_nil (hs.fieldNames e he f hf) ((hascii e he).2 f hf)
      rw [if_neg (by simpa using hne)] at hname
      split at hname
      · next hcount =>
          obtain ⟨f', hf', hsame⟩ := exists_of_countP_eq_one hcount
          have hkey := eq_of_beq hsame
          rw [nameKey_eq_foldAscii (hs.fieldNames e he f' (hmem f' hf'))
              ((hascii e he).2 f' (hmem f' hf')),
            nameKey_eq_foldAscii (hs.fieldNames e he f hf) ((hascii e he).2 f hf)] at hkey
          exact absurd hkey
            (key_ne_of_mem_front (fun f : Field => Text.foldAscii f.name) hnames hf')
      · cases hname
  · split at hkey
    · exact ⟨_, List.mem_singleton.1 hkey⟩
    · cases hkey

theorem endErrors_eq_nil {r : Relationship} (side : RelationshipEnd)
    (h : (s.endpoint? (side.of r)).isSome) : endErrors s r side = [] := by
  obtain ⟨⟨e, f⟩, hend⟩ := Option.isSome_iff_exists.1 h
  obtain ⟨he, hf⟩ := (Schema.endpoint?_eq_some_iff _).1 hend
  simp [endErrors, he, hf]

theorem relationshipErrors_eq_nil (hs : s.Referential) :
    flatMapAfter (relationshipErrors s) [] s.relationships = [] := by
  refine List.eq_nil_iff_forall_not_mem.2 fun issue h => ?_
  obtain ⟨front, r, back, hlist, h⟩ := mem_flatMapAfter.1 h
  have hids := hs.relationshipIds
  rw [hlist] at hids
  obtain ⟨hp, hc⟩ := (Schema.resolve?_isSome_iff r).1 (hs.resolves r (by simp [hlist]))
  rw [relationshipErrors, endErrors_eq_nil .parent hp,
    endErrors_eq_nil .child hc, List.append_nil, List.append_nil] at h
  rw [any_key_front (fun r : Relationship => r.id) hids, if_neg Bool.false_ne_true] at h
  cases h

/-- The parent end of a link is found by its names. -/
theorem hasColumn_of_link (hnames : (s.entities.map fun e => Text.foldAscii e.name).Nodup)
    {p : Endpoint} {e : Entity} {f : Field} (h : s.endpoint? p = some (e, f)) :
    hasColumn s ⟨e.name, f.name⟩ := by
  obtain ⟨hfind, hfield⟩ := (Schema.endpoint?_eq_some_iff p).1 h
  have he := Schema.mem_of_entity? hfind
  have hentity : s.entityNamed? e.name = some e :=
    find?_key_eq_some hnames he
  have hsome : (e.fieldNamed? f.name).isSome := by
    rw [Entity.fieldNamed?, List.find?_isSome]
    exact ⟨f, Entity.mem_of_field? hfield, by simp [Text.sameName]⟩
  rw [hasColumn, hentity]
  exact hsome

theorem referenceErrors_eq_nil (hs : s.Synced)
    (hnames : (s.entities.map fun e => Text.foldAscii e.name).Nodup) {e : Entity} {f : Field}
    (he : e ∈ s.entities) (hf : f ∈ e.fields) : referenceErrors s e f = [] := by
  rw [referenceErrors]
  split
  · next hkey =>
      have hamong := s.referencesAmong_syncForeignKeys
      rw [hs] at hamong
      obtain ⟨c, hc, hreferences⟩ := hamong e he f hf hkey
      obtain ⟨claim, hclaim, rfl⟩ := List.mem_map.1 hc
      obtain ⟨r, -, link, hlink, rfl⟩ := Schema.mem_references.1 hclaim
      obtain ⟨hp, -⟩ := (Schema.resolve?_eq_some_iff r link).1 hlink
      simp [hreferences, hasColumn_of_link hnames hp]
  · rfl

/-- A well-formed schema with ASCII names can only lack a primary key, or name a table against the
rules for names. -/
theorem errors_of_wellFormed (v : Validator) (hs : s.WellFormed) (hascii : s.AsciiNames)
    (h : issue ∈ v.errors s) :
    (∃ table, issue = .missingPrimaryKey table) ∨
      ∃ table fault, issue = .invalidEntityName table fault := by
  rw [errors, relationshipErrors_eq_nil hs.toReferential, List.append_nil] at h
  rcases List.mem_append.1 h with h | hreference
  · rcases List.mem_append.1 h with hentity | hcolumn
    · exact Or.inr (entityErrors_of_wellFormed v hs hascii hentity)
    · obtain ⟨e, he, hcolumn⟩ := List.mem_flatMap.1 hcolumn
      exact Or.inl (columnErrors_of_wellFormed hs hascii he hcolumn)
  · obtain ⟨e, he, hreference⟩ := List.mem_flatMap.1 hreference
    obtain ⟨f, hf, hreference⟩ := List.mem_flatMap.1 hreference
    rw [referenceErrors_eq_nil hs.synced hs.entityNames_distinct he hf] at hreference
    cases hreference

end Validator

end EntityRelation
