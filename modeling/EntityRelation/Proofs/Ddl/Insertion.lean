import EntityRelation.Proofs.Ddl.Accounting

/-!
# Insertions into a statement

A statement that creates or alters a table names it first, and whatever is put in further back does
not change how the name is read (`Clause.created?_append`, `Clause.altered?_append`). What follows
the name is cut at commas, so a clause that is put in between two commas is one more entry
(`Clause.splitTopLevel_insert`).
-/

namespace EntityRelation

namespace Ddl

namespace Clause

variable {a b c x : Clause} {ks : List Keyword}

/-! ## The name of the table -/

/-- The name of the table that a statement creates, and what follows it. -/
def created? (c : Clause) : Option (String × Clause) := do
  let rest ← c.after? [.create]
  let rest ← ((rest.skip [.orWord, .replace]).skipAll tableQualities).after? [.table]
  (rest.skip [.ifWord, .notWord, .existsWord]).tableName?

/-- The name of the table that a statement alters, and what follows it. -/
def altered? (c : Clause) : Option (String × Clause) := do
  let rest ← c.after? [.alter, .table]
  ((rest.skip [.only]).skip [.ifWord, .existsWord]).tableName?

/-- The words that may stand in front of the name of a table. -/
def announcingWords : List Keyword :=
  [.create, .orWord, .replace, .temporary, .temp, .global, .localWord, .unlogged, .table, .ifWord,
    .notWord, .existsWord, .alter, .only]

/-- The clause does not go on with one of the keywords. -/
def Avoids (ks : List Keyword) (c : Clause) : Prop :=
  ∀ l ∈ c.head?, l.isAny ks = false

theorem Avoids.mono {ks' : List Keyword} (h : Avoids ks c) (hsub : ks' ⊆ ks) : Avoids ks' c := by
  intro l hl
  have hall := List.any_eq_false.1 (h l hl)
  exact List.any_eq_false.2 fun k hk => hall k (hsub hk)

theorem Avoids.append (ha : Avoids ks a) (hb : Avoids ks b) : Avoids ks (a ++ b) := by
  cases a with
  | nil => exact hb
  | cons l a => exact ha

theorem after?_append (h : Avoids ks x) (a : Clause) :
    after? ks (a ++ x) = (after? ks a).map (· ++ x) := by
  induction ks generalizing a with
  | nil => rfl
  | cons k ks ih =>
      have hrest : Avoids ks x := h.mono (List.subset_cons_self k ks)
      cases a with
      | nil =>
          cases x with
          | nil => rfl
          | cons l x =>
              have hother : ¬l.isKeyword k = true :=
                List.any_eq_false.1 (h l rfl) k List.mem_cons_self
              rw [List.nil_append, after?, if_neg hother]
              rfl
      | cons l a =>
          rw [List.cons_append, after?, after?, ih hrest, apply_ite (Option.map (· ++ x))]
          rfl

theorem skip_append (h : Avoids ks x) (a : Clause) : skip ks (a ++ x) = skip ks a ++ x := by
  rw [skip, skip, after?_append h]
  cases after? ks a with
  | none => rfl
  | some rest => rfl

theorem skipAll_append (h : Avoids ks x) (a : Clause) :
    skipAll ks (a ++ x) = skipAll ks a ++ x := by
  rw [skipAll, skipAll, List.dropWhile_append]
  split
  · next hempty =>
    rw [List.isEmpty_iff.1 hempty, List.nil_append]
    cases x with
    | nil => rfl
    | cons l x => rw [List.dropWhile_cons_of_neg (by rw [h l rfl]; exact Bool.false_ne_true)]
  · rfl

/-- A name that two lexemes follow ends there. -/
theorem qualifiedFrom_append {name last : String} {rest : Clause}
    (h : qualifiedFrom name a = (last, rest)) (hlength : 2 ≤ rest.length) (x : Clause) :
    qualifiedFrom name (a ++ x) = (last, rest ++ x) := by
  fun_induction qualifiedFrom name a with
  | case1 name point part more hpoint next hpart ih =>
      rw [List.cons_append, List.cons_append, qualifiedFrom, if_pos hpoint]
      simp only [hpart]
      exact ih h
  | case2 name point part more hpoint hpart =>
      obtain ⟨rfl, rfl⟩ := Prod.mk.inj h
      rw [List.cons_append, List.cons_append, qualifiedFrom, if_pos hpoint]
      simp only [hpart]
  | case3 name point part more hpoint =>
      obtain ⟨rfl, rfl⟩ := Prod.mk.inj h
      rw [List.cons_append, List.cons_append, qualifiedFrom, if_neg hpoint]
  | case4 name c hshort =>
      obtain ⟨rfl, rfl⟩ := Prod.mk.inj h
      cases c with
      | nil => simp at hlength
      | cons l c =>
          cases c with
          | nil => simp at hlength
          | cons m more => exact absurd rfl (hshort l m more)

/-- A name is read on from where it ended. -/
theorem qualifiedFrom_resume (name : String) (a x : Clause) :
    qualifiedFrom name (a ++ x) =
      qualifiedFrom (qualifiedFrom name a).1 ((qualifiedFrom name a).2 ++ x) := by
  fun_induction qualifiedFrom name a with
  | case1 name point part more hpoint next hpart ih =>
      rw [List.cons_append, List.cons_append, qualifiedFrom, if_pos hpoint]
      simp only [hpart]
      exact ih
  | case2 => rfl
  | case3 => rfl
  | case4 => rfl

theorem tableName?_append {name : String} {rest : Clause} (h : tableName? a = some (name, rest))
    (hlength : 2 ≤ rest.length) (x : Clause) : tableName? (a ++ x) = some (name, rest ++ x) := by
  cases a with
  | nil => cases h
  | cons l a =>
      rw [tableName?, Option.map_eq_some_iff] at h
      obtain ⟨first, hfirst, hread⟩ := h
      rw [List.cons_append, tableName?, hfirst, Option.map_some,
        qualifiedFrom_append hread hlength]

variable {name : String} {rest : Clause}

theorem created?_append (h : a.created? = some (name, rest)) (hlength : 2 ≤ rest.length)
    (hx : Avoids announcingWords x) : (a ++ x).created? = some (name, rest ++ x) := by
  simp only [created?, bind, Option.bind_eq_some_iff] at h
  obtain ⟨r, hr, r', hr', hname⟩ := h
  have hqualities : Avoids tableQualities x := hx.mono (by decide)
  have hcreate : after? [.create] (a ++ x) = some (r ++ x) := by
    rw [after?_append (hx.mono (by decide)), hr]
    rfl
  have htable : after? [.table] (skipAll tableQualities (skip [.orWord, .replace] (r ++ x))) =
      some (r' ++ x) := by
    rw [skip_append (hx.mono (by decide)), skipAll_append hqualities,
      after?_append (hx.mono (by decide)), hr']
    rfl
  simp only [created?, bind, hcreate, htable, Option.bind_some]
  rw [skip_append (hx.mono (by decide))]
  exact tableName?_append hname hlength x

theorem altered?_append (h : a.altered? = some (name, rest)) (hlength : 2 ≤ rest.length)
    (hx : Avoids announcingWords x) : (a ++ x).altered? = some (name, rest ++ x) := by
  simp only [altered?, bind, Option.bind_eq_some_iff] at h
  obtain ⟨r, hr, hname⟩ := h
  have halter : after? [.alter, .table] (a ++ x) = some (r ++ x) := by
    rw [after?_append (hx.mono (by decide)), hr]
    rfl
  simp only [altered?, bind, halter, Option.bind_some]
  rw [skip_append (hx.mono (by decide)), skip_append (hx.mono (by decide))]
  exact tableName?_append hname hlength x

/-! ## Entries between commas -/

/-- The groups that are open after a clause, when `depth` groups are open before it. -/
def openGroups (depth : Nat) : Clause → Nat
  | [] => depth
  | l :: rest =>
    if l.token = .leftParen then openGroups (depth + 1) rest
    else if l.token = .rightParen then openGroups (depth - 1) rest
    else openGroups depth rest

/-- An entry may start after the clause: nothing stands there, or a comma outside all groups. -/
def EndsEntry (c : Clause) : Prop :=
  c = [] ∨ ∃ a comma, c = a ++ [comma] ∧ comma.token = .comma ∧ openGroups 0 a = 0

/-- An entry may end before the clause: nothing follows, or a comma. -/
def StartsEntry (c : Clause) : Prop :=
  c = [] ∨ ∃ comma b, c = comma :: b ∧ comma.token = .comma

/-- A clause that is one entry of a list. -/
structure IsOneEntry (c : Clause) : Prop where
  ne_nil : c ≠ []
  balanced : c.isBalanced 0 = true
  noComma : c.Outside NoComma 0

theorem openGroups_of_isBalanced {depth : Nat} (h : isBalanced depth c = true) :
    openGroups depth c = 0 := by
  induction c generalizing depth with
  | nil => simpa [isBalanced, openGroups] using h
  | cons l c ih =>
      rw [isBalanced] at h
      rw [openGroups]
      rcases token_cases l with hleft | hright | hother
      · rw [if_pos hleft] at h ⊢
        exact ih h
      · rw [if_neg (by simp [hright]), if_pos hright] at h ⊢
        exact ih (Bool.and_eq_true_iff.1 h).2
      · rw [if_neg hother.1, if_neg hother.2] at h ⊢
        exact ih h

theorem splitFrom_comma_append {before : Clause} {depth : Nat} (h : openGroups depth a = 0)
    {comma : Lexeme} (hcomma : comma.token = .comma) (b : Clause) :
    splitFrom before depth (a ++ comma :: b) = splitFrom before depth a ++ splitFrom [] 0 b := by
  induction a generalizing before depth with
  | nil =>
      obtain rfl : depth = 0 := h
      rw [List.nil_append, splitFrom_comma hcomma]
      rfl
  | cons l a ih =>
      rw [openGroups] at h
      rw [List.cons_append]
      rcases token_cases l with hleft | hright | hother
      · rw [if_pos hleft] at h
        rw [splitFrom_left hleft, splitFrom_left hleft, ih h]
      · rw [if_neg (by simp [hright]), if_pos hright] at h
        rw [splitFrom_right hright, splitFrom_right hright, ih h]
      · rw [if_neg hother.1, if_neg hother.2] at h
        by_cases hsplit : depth = 0 → l.token ≠ .comma
        · rw [splitFrom_other hother hsplit, splitFrom_other hother hsplit, ih h]
        · obtain ⟨rfl, hl⟩ : depth = 0 ∧ l.token = .comma := by simpa using hsplit
          rw [splitFrom_comma hl, splitFrom_comma hl, ih h, List.cons_append]

theorem splitTopLevel_comma_append (h : openGroups 0 a = 0) {comma : Lexeme}
    (hcomma : comma.token = .comma) (b : Clause) :
    splitTopLevel (a ++ comma :: b) = splitTopLevel a ++ splitTopLevel b := by
  rw [splitTopLevel, splitFrom_comma_append h hcomma, List.filter_append]
  rfl

theorem splitTopLevel_of_endsEntry (h : EndsEntry a) (b : Clause) :
    splitTopLevel (a ++ b) = splitTopLevel a ++ splitTopLevel b := by
  rcases h with rfl | ⟨a, comma, rfl, hcomma, hopen⟩
  · rfl
  · have hlast := splitTopLevel_comma_append hopen hcomma []
    have hnil : splitTopLevel [] = [] := rfl
    rw [hnil, List.append_nil] at hlast
    rw [List.append_assoc, List.singleton_append, splitTopLevel_comma_append hopen hcomma, hlast]

theorem splitTopLevel_of_isOneEntry (hc : c.IsOneEntry) (h : StartsEntry b) :
    splitTopLevel (c ++ b) = c :: splitTopLevel b := by
  have hsplit : ∀ b, splitFrom [] 0 (c ++ b) = splitFrom (c.reverse ++ []) 0 b :=
    splitFrom_append hc.balanced hc.noComma
  have hkept : ([c].filter fun part => !List.isEmpty part) = [c] := by simp [hc.ne_nil]
  have hreverse : c.reverse.reverse = c := List.reverse_reverse c
  rcases h with rfl | ⟨comma, b, rfl, hcomma⟩
  · rw [splitTopLevel, hsplit, splitFrom, List.append_nil, hreverse]
    exact hkept
  · have hrest : splitTopLevel (comma :: b) = splitTopLevel b :=
      splitTopLevel_comma_append (a := []) rfl hcomma b
    rw [hrest, splitTopLevel, hsplit, splitFrom_comma hcomma, List.append_nil, hreverse,
      ← List.singleton_append, List.filter_append, hkept]
    rfl

/-- A clause between others is one more entry. -/
theorem splitTopLevel_insert (ha : EndsEntry a) (hc : c.IsOneEntry) (hb : StartsEntry b) :
    splitTopLevel (a ++ (c ++ b)) = splitTopLevel a ++ c :: splitTopLevel b := by
  rw [splitTopLevel_of_endsEntry ha, splitTopLevel_of_isOneEntry hc hb]

end Clause

/-! ## Statements that name their table -/

section

open Clause

variable {s : Statement} {draft : Draft} {name : String} {body tail actions : Clause}

/-- A statement that creates a table goes on with the body of the table. -/
theorem Statement.header?_of_created? {left right : Lexeme}
    (h : s.lexemes.created? = some (name, left :: (body ++ right :: tail)))
    (hleft : left.token = .leftParen) (hbalanced : body.isBalanced 0 = true) (hne : body ≠ [])
    (hright : right.token = .rightParen) : s.header? = some (.ok (name, body)) := by
  simp only [created?, bind, Option.bind_eq_some_iff] at h
  obtain ⟨r, hr, r', hr', hname⟩ := h
  have hkind : s.kind = .createTable r' := by
    rw [kind, hr]
    simp only [hr']
  have hclose : closeGroup? 0 (body ++ right :: tail) = some (body, tail) :=
    closeGroup?_of_isBalanced hbalanced hright tail
  rw [header?, hkind]
  dsimp only
  rw [tableHeader, hname]
  dsimp only
  rw [if_pos hleft, hclose]
  cases body with
  | nil => exact absurd rfl hne
  | cons l body => rfl

/-- A statement that alters a table goes on with the actions. -/
theorem Draft.add_of_altered? {index : Nat} {entity : Entity}
    (h : s.lexemes.altered? = some (name, actions))
    (hindex : draft.entities.findIdx? (fun e => Text.sameName e.name name) = some index)
    (hentity : draft.entities[index]? = some entity) :
    let table := actions.splitTopLevel.foldl (TableDraft.addAction index s.line) { entity }
    draft.add s =
      { draft.absorb table with entities := draft.entities.set index table.entity } := by
  simp only [altered?, bind, Option.bind_eq_some_iff] at h
  obtain ⟨r, hr, hname⟩ := h
  have hcreate : after? [.create] s.lexemes = none := by
    cases hlexemes : s.lexemes with
    | nil => rfl
    | cons l more =>
        rw [hlexemes, after?] at hr
        split at hr
        · next hl =>
          rw [Lexeme.isKeyword, beq_iff_eq] at hl
          exact after?_cons_ne (by rw [hl]; decide)
        · cases hr
  have hkind : s.kind = .alterTable r := by rw [Statement.kind, hcreate, hr]
  dsimp only
  rw [add, hkind]
  dsimp only
  rw [alterTable, hname]
  dsimp only
  rw [hindex]
  dsimp only
  rw [hentity]

end

end Ddl

end EntityRelation
