import EntityRelation.Ddl.Constraint
import EntityRelation.Proofs.Ddl.Grouping
import EntityRelation.Proofs.Ddl.Reads

/-!
# Lists between commas

A clause is contained when its parentheses match and neither a comma outside of them nor a comment
or semicolon stands in it. Contained clauses with commas between them are cut at just these commas,
and between parentheses they are one contained clause again.
-/

namespace EntityRelation

namespace Ddl

open Lexer

namespace Clause

/-- A clause that can stand between parentheses: they match in it, and it has no comments and no
semicolons. -/
structure IsInside (c : Clause) : Prop where
  balanced : c.isBalanced 0
  tokens : ∀ l ∈ c, l.token ≠ .comment ∧ l.token ≠ .semicolon

/-- A clause that can stand between commas. -/
structure IsContained (c : Clause) : Prop extends c.IsInside where
  noComma : c.Outside NoComma 0

/-- The tokens that neither open nor close nor separate anything. -/
def isInner (t : Token) : Bool :=
  t != .leftParen && t != .rightParen && t != .comma && t != .comment && t != .semicolon

variable {a b c : Clause} {depth : Nat} {l : Lexeme}

theorem IsContained.nil : IsContained [] :=
  ⟨⟨rfl, by simp⟩, trivial⟩

theorem IsContained.cons (hl : isInner l.token = true) (h : c.IsContained) :
    IsContained (l :: c) := by
  simp only [isInner, Bool.and_eq_true, bne_iff_ne] at hl
  obtain ⟨⟨⟨⟨hleft, hright⟩, hcomma⟩, hcomment⟩, hsemicolon⟩ := hl
  constructor
  · constructor
    · rw [isBalanced, if_neg hleft, if_neg hright]
      exact h.balanced
    · intro m hm
      rcases List.mem_cons.1 hm with rfl | hmem
      · exact ⟨hcomment, hsemicolon⟩
      · exact h.tokens m hmem
  · rw [Outside, if_neg hleft, if_neg hright]
    refine ⟨fun _ m hm => ?_, h.noComma⟩
    obtain rfl := Option.some.inj hm
    exact hcomma

theorem Outside.append {p : Clause → Prop} (hp : ∀ s, s ≠ [] → p s → p (s ++ b))
    (hbalanced : isBalanced depth a = true) (ha : a.Outside p depth) (hb : b.Outside p 0) :
    (a ++ b).Outside p depth := by
  induction a generalizing depth with
  | nil =>
      obtain rfl : depth = 0 := by simpa [isBalanced] using hbalanced
      exact hb
  | cons l a ih =>
      rw [isBalanced] at hbalanced
      rw [Outside] at ha
      rw [List.cons_append, Outside]
      rcases token_cases l with hleft | hright | hother
      · rw [if_pos hleft] at hbalanced ha ⊢
        exact ih hbalanced ha
      · rw [if_neg (by simp [hright]), if_pos hright] at hbalanced ha ⊢
        rw [Bool.and_eq_true] at hbalanced
        exact ih hbalanced.2 ha
      · rw [if_neg hother.1, if_neg hother.2] at hbalanced ha ⊢
        exact ⟨fun hzero => hp _ (List.cons_ne_nil l a) (ha.1 hzero), ih hbalanced ha.2⟩

/-- Inside a group nothing is asked for. -/
theorem Outside.of_inside {p : Clause → Prop} {k : Nat} (hbalanced : isBalanced k a = true)
    (hb : b.Outside p (depth + 1)) : (a ++ b).Outside p (depth + 1 + k) := by
  induction a generalizing k with
  | nil =>
      obtain rfl : k = 0 := by simpa [isBalanced] using hbalanced
      exact hb
  | cons l a ih =>
      rw [isBalanced] at hbalanced
      rw [List.cons_append, Outside]
      rcases token_cases l with hleft | hright | hother
      · rw [if_pos hleft] at hbalanced ⊢
        exact ih hbalanced
      · rw [if_neg (by simp [hright]), if_pos hright] at hbalanced ⊢
        rw [Bool.and_eq_true, decide_eq_true_eq] at hbalanced
        have hrest := ih hbalanced.2
        rwa [← Nat.add_sub_assoc hbalanced.1] at hrest
      · rw [if_neg hother.1, if_neg hother.2] at hbalanced ⊢
        exact ⟨fun hzero => absurd hzero (by omega), ih hbalanced⟩

theorem NoComma.append {s : Clause} (hs : s ≠ []) (h : NoComma s) : NoComma (s ++ b) := by
  cases s with
  | nil => exact absurd rfl hs
  | cons l s => exact h

theorem IsInside.append (ha : a.IsInside) (hb : b.IsInside) : (a ++ b).IsInside := by
  constructor
  · have happend := isBalanced_append 0 ha.balanced b
    exact happend.trans hb.balanced
  · intro l hl
    rcases List.mem_append.1 hl with hmem | hmem
    · exact ha.tokens l hmem
    · exact hb.tokens l hmem

theorem IsContained.append (ha : a.IsContained) (hb : b.IsContained) : (a ++ b).IsContained :=
  ⟨ha.toIsInside.append hb.toIsInside,
    ha.noComma.append (fun _ => NoComma.append) ha.balanced hb.noComma⟩

/-- A group around a clause that can stand inside it. -/
theorem IsInside.group {left right : Lexeme} (h : c.IsInside) (hleft : left.token = .leftParen)
    (hright : right.token = .rightParen) : IsContained (left :: c ++ [right]) := by
  constructor
  · constructor
    · have hclose : isBalanced 1 [right] = true := by simp [isBalanced, hright]
      rw [List.cons_append, isBalanced, if_pos hleft]
      exact (isBalanced_append 1 h.balanced [right]).trans hclose
    · intro l hl
      rcases List.mem_append.1 hl with hmem | hmem
      · rcases List.mem_cons.1 hmem with rfl | hmem
        · simp [hleft]
        · exact h.tokens l hmem
      · rw [List.mem_singleton.1 hmem]
        simp [hright]
  · rw [List.cons_append, Outside, if_pos hleft]
    refine @Outside.of_inside c [right] 0 _ 0 h.balanced ?_
    rw [Outside, if_neg (by simp [hright]), if_pos hright]
    trivial

/-! ## Parts and the commas between them -/

/-- A clause that is made of parts with a comma between each and the next. -/
inductive IsJoined : List Clause → Clause → Prop where
  | one (c : Clause) : IsJoined [c] c
  | cons {c rest : Clause} {parts : List Clause} {l : Lexeme} (hcomma : l.token = .comma)
      (hrest : IsJoined parts rest) : IsJoined (c :: parts) (c ++ l :: rest)

/-- Contained parts are found again between the commas. -/
theorem IsJoined.splitFrom_eq {parts : List Clause} (h : IsJoined parts c)
    (hparts : ∀ p ∈ parts, p.IsContained) : splitFrom [] 0 c = parts := by
  induction h with
  | one c =>
      have hc := hparts c (by simp)
      have hsplit := @splitFrom_append 0 [] c hc.balanced hc.noComma []
      simpa [splitFrom] using hsplit
  | @cons c rest parts l hcomma hrest ih =>
      have hc := hparts c (by simp)
      rw [splitFrom_append hc.balanced hc.noComma, splitFrom_comma hcomma,
        ih fun p hp => hparts p (List.mem_cons_of_mem _ hp)]
      simp

theorem IsJoined.isInside {parts : List Clause} (h : IsJoined parts c)
    (hparts : ∀ p ∈ parts, p.IsContained) : c.IsInside := by
  induction h with
  | one c => exact (hparts c (by simp)).toIsInside
  | @cons c rest parts l hcomma hrest ih =>
      have hc := hparts c (by simp)
      have hrest := ih fun p hp => hparts p (List.mem_cons_of_mem _ hp)
      refine hc.toIsInside.append ⟨?_, ?_⟩
      · rw [isBalanced, if_neg (by simp [hcomma]), if_neg (by simp [hcomma])]
        exact hrest.balanced
      · intro m hm
        rcases List.mem_cons.1 hm with rfl | hmem
        · simp [hcomma]
        · exact hrest.tokens m hmem

theorem IsJoined.ne_nil {parts : List Clause} (h : IsJoined parts c) (hparts : ∀ p ∈ parts, p ≠ []) :
    c ≠ [] := by
  cases h with
  | one => exact hparts c (by simp)
  | cons => simp

theorem IsJoined.splitTopLevel_eq {parts : List Clause} (h : IsJoined parts c)
    (hparts : ∀ p ∈ parts, p.IsContained ∧ p ≠ []) : c.splitTopLevel = parts := by
  rw [splitTopLevel, h.splitFrom_eq fun p hp => (hparts p hp).1, List.filter_eq_self]
  intro p hp
  simpa using (hparts p hp).2

end Clause

theorem exists_of_forall₂ {α β : Type} {R : α → β → Prop} {as : List α} {bs : List β}
    (h : List.Forall₂ R as bs) {b : β} (hb : b ∈ bs) : ∃ a ∈ as, R a b := by
  induction h with
  | nil => simp at hb
  | @cons a b' as bs hfirst hrest ih =>
      rcases List.mem_cons.1 hb with rfl | hmem
      · exact ⟨a, by simp, hfirst⟩
      · obtain ⟨a', ha', hR⟩ := ih hmem
        exact ⟨a', List.mem_cons_of_mem _ ha', hR⟩

theorem exists_append_of_forall₂ {α β : Type} {R : α → β → Prop} {as as' : List α} {bs : List β}
    (h : List.Forall₂ R (as ++ as') bs) :
    ∃ cs cs', bs = cs ++ cs' ∧ List.Forall₂ R as cs ∧ List.Forall₂ R as' cs' := by
  induction as generalizing bs with
  | nil => exact ⟨[], bs, rfl, List.Forall₂.nil, h⟩
  | cons a as ih =>
      rw [List.cons_append] at h
      cases h with
      | cons hfirst hrest =>
          obtain ⟨cs, cs', rfl, hcs, hcs'⟩ := ih hrest
          exact ⟨_ :: cs, cs', rfl, List.Forall₂.cons hfirst hcs, hcs'⟩

/-- Pieces with a comma and a gap between them give parts with commas between them. -/
theorem reads_intercalate {α : Type} {f : α → String} {Q : α → Clause → Prop} {gap : Char}
    (hgap : gap = ' ' ∨ gap = '\n') {as : List α} (hne : as ≠ [])
    (h : ∀ a ∈ as, Reads Stops (f a).toList (Q a)) :
    Reads Stops (String.intercalate (String.ofList [',', gap]) (as.map f)).toList fun ls =>
      ∃ parts, Clause.IsJoined parts ls ∧ List.Forall₂ Q as parts := by
  induction as with
  | nil => exact absurd rfl hne
  | cons a as ih =>
      cases as with
      | nil =>
          rw [List.map_singleton, String.intercalate_singleton]
          refine (h a (by simp)).mono ?_
          intro ls hls
          exact ⟨[ls], .one ls, .cons hls .nil⟩
      | cons b as =>
          have hrest := ih (by simp) fun x hx => h x (List.mem_cons_of_mem _ hx)
          have hsep := Reads.comma.append (hrest.after_gap hgap) fun _ _ => trivial
          have hboth := (h a (by simp)).append hsep fun tail _ => stops_cons (by decide) _
          rw [List.map_cons, List.map_cons, String.intercalate_cons_cons, ← List.map_cons,
            String.toList_append, String.toList_append, String.toList_ofList, List.append_assoc]
          refine hboth.mono ?_
          rintro ls ⟨first, more, rfl, hfirst, comma, rest, rfl, hcomma, parts, hjoined, hparts⟩
          obtain ⟨l, rfl, hl⟩ := List.map_eq_singleton_iff.1 hcomma
          exact ⟨first :: parts, .cons hl hjoined, .cons hfirst hparts⟩

end Ddl

end EntityRelation
