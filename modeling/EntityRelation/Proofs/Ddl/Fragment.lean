import EntityRelation.Proofs.Ddl.Grouping
import EntityRelation.Proofs.Ddl.Reads
import EntityRelation.Proofs.Text.Trim

/-!
# Texts that stand for themselves

Column types and defaults go into a script as they are. Such a text is a fragment when it can be
cut into lexemes on its own, gives itself back when they are written down again, and keeps to
itself inside a clause: it has no comment or semicolon, its parentheses match, and no comma stands
outside of them. A fragment gives the same tokens wherever it stands, and neither starts nor ends
with a blank.
-/

namespace EntityRelation

namespace Ddl

open Lexer

/-- A text that stands for itself inside a clause, and its lexemes. -/
structure IsFragment (text : String) (c : Clause) : Prop where
  lexes : lexemes text = .ok c
  tokens : ∀ l ∈ c, l.token ≠ .comment ∧ l.token ≠ .semicolon
  text_eq : c.text = text
  ne_nil : c ≠ []
  balanced : c.isBalanced 0
  noComma : c.Outside Clause.NoComma 0

instance (text : String) (c : Clause) : Decidable (IsFragment text c) :=
  decidable_of_iff
    (lexemes text = .ok c ∧ (∀ l ∈ c, l.token ≠ .comment ∧ l.token ≠ .semicolon) ∧
      c.text = text ∧ c ≠ [] ∧ c.isBalanced 0 ∧ c.Outside Clause.NoComma 0)
    ⟨fun ⟨hlexes, htokens, htext, hne, hbalanced, hcomma⟩ =>
        ⟨hlexes, htokens, htext, hne, hbalanced, hcomma⟩,
      fun h => ⟨h.lexes, h.tokens, h.text_eq, h.ne_nil, h.balanced, h.noComma⟩⟩

/-- A text that can be the type of a column: a fragment without modifiers outside its groups. -/
def IsTypeText (text : String) : Prop :=
  ∃ c, IsFragment text c ∧ c.Outside Clause.NoModifier 0

/-- A text that can be the default of a column: a fragment without modifiers outside its groups,
the first lexeme apart. -/
def IsDefaultText (text : String) : Prop :=
  ∃ l rest, IsFragment text (l :: rest) ∧
    Clause.Outside Clause.NoModifier (if l.token = .leftParen then 1 else 0) rest

/-! ## The same lexemes everywhere -/

/-- What a lexeme is apart from where it stands. -/
def Lexeme.face (l : Lexeme) : Token × String × Bool :=
  (l.token, l.text, l.spaced)

theorem map_token_of_face {c c' : Clause} (h : c.map Lexeme.face = c'.map Lexeme.face) :
    c.map Lexeme.token = c'.map Lexeme.token := by
  have hfirst := congrArg (List.map Prod.fst) h
  rwa [List.map_map, List.map_map] at hfirst

theorem textAfter_of_face {c c' : Clause} (h : c.map Lexeme.face = c'.map Lexeme.face) :
    c.textAfter = c'.textAfter := by
  induction c generalizing c' with
  | nil =>
      cases c' with
      | nil => rfl
      | cons => simp at h
  | cons l c ih =>
      cases c' with
      | nil => simp at h
      | cons l' c' =>
          simp only [List.map_cons, List.cons.injEq, Lexeme.face, Prod.mk.injEq] at h
          obtain ⟨⟨-, htext, hspaced⟩, hrest⟩ := h
          rw [Clause.textAfter, Clause.textAfter, htext, hspaced, ih hrest]

theorem text_of_face {c c' : Clause} (h : c.map Lexeme.face = c'.map Lexeme.face) :
    c.text = c'.text := by
  cases c with
  | nil =>
      cases c' with
      | nil => rfl
      | cons => simp at h
  | cons l c =>
      cases c' with
      | nil => simp at h
      | cons l' c' =>
          simp only [List.map_cons, List.cons.injEq, Lexeme.face, Prod.mk.injEq] at h
          rw [Clause.text, Clause.text, h.1.2.1, textAfter_of_face h.2]

/-- A text without comments gives the same lexemes at another place and before a stop. -/
theorem lexemesFrom_append {tail : List Char} (h : Stops tail) {place place' : Source.Place}
    {afterWord spaced : Bool} {cs : List Char} {ls : Clause}
    (hread : lexemesFrom place afterWord spaced cs = .ok ls) (hls : ∀ l ∈ ls, l.token ≠ .comment) :
    ∃ ls' place'' afterWord' spaced', ls'.map Lexeme.face = ls.map Lexeme.face ∧
      lexemesFrom place' afterWord spaced (cs ++ tail) =
        (lexemesFrom place'' afterWord' spaced' tail).map (ls' ++ ·) := by
  induction Lexed.of_lexemesFrom hread generalizing place' with
  | @nil place afterWord spaced =>
      exact ⟨[], place', afterWord, spaced, rfl, (map_nil_append _).symm⟩
  | @gap place afterWord spaced c rest width ls found more ih =>
      obtain ⟨hle, happend, -⟩ := scan_append h (by simp) found
      obtain ⟨ls', p, aw, sp, hface, heq⟩ :=
        @ih (place'.advance (c :: rest.take width)) more.lexemesFrom_eq hls
      refine ⟨ls', p, aw, sp, hface, ?_⟩
      rw [List.cons_append, lexemesFrom_gap happend, List.take_append_of_le_length hle,
        List.drop_append_of_le_length hle, heq]
  | @token place afterWord spaced c rest token width ls found more ih =>
      have htoken : token ≠ .comment := hls _ List.mem_cons_self
      obtain ⟨hle, happend, -⟩ := scan_append h (by simpa using htoken) found
      obtain ⟨ls', p, aw, sp, hface, heq⟩ :=
        @ih (place'.advance (c :: rest.take width)) more.lexemesFrom_eq
          fun l hl => hls l (List.mem_cons_of_mem _ hl)
      refine ⟨⟨token, String.ofList (c :: rest.take width), place', spaced⟩ :: ls', p, aw, sp,
        ?_, ?_⟩
      · rw [List.map_cons, List.map_cons, hface]
        rfl
      · rw [List.cons_append, lexemesFrom_token happend, List.take_append_of_le_length hle,
          List.drop_append_of_le_length hle, heq, map_cons_map_append]

/-- Whether blanks stand before the text does not change what it gives. -/
theorem exists_lexemesFrom_spaced {place : Source.Place} {afterWord spaced : Bool} {cs : List Char}
    {ls : Clause} (hread : lexemesFrom place afterWord spaced cs = .ok ls) (spaced' : Bool) :
    ∃ ls' : Clause, lexemesFrom place afterWord spaced' cs = .ok ls' ∧
      ls'.map Lexeme.token = ls.map Lexeme.token ∧ ls'.text = ls.text := by
  cases Lexed.of_lexemesFrom hread with
  | nil => exact ⟨[], Lexed.nil.lexemesFrom_eq, rfl, rfl⟩
  | gap found more => exact ⟨ls, (more.gap found).lexemesFrom_eq, rfl, rfl⟩
  | token found more => exact ⟨_, (more.token found).lexemesFrom_eq, rfl, rfl⟩

/-- A fragment after a blank gives its own tokens and its own text. -/
theorem IsFragment.reads {text : String} {c : Clause} (h : IsFragment text c) :
    Reads Stops (' ' :: text.toList) fun ls =>
      Tokens (c.map Lexeme.token) ls ∧ ls.text = text := by
  intro tail htail place afterWord spaced
  obtain ⟨c', hread, htokens, htext⟩ := exists_lexemesFrom_spaced h.lexes true
  have hcomment : ∀ l ∈ c', l.token ≠ .comment :=
    Clause.forall_token_congr (p := (· ≠ .comment)) htokens fun l hl => (h.tokens l hl).1
  have hgap : scan afterWord ' ' (text.toList ++ tail) = .ok (none, 0) := rfl
  obtain ⟨ls, place', afterWord', spaced', hface, heq⟩ :=
    @lexemesFrom_append _ htail _ (place.advance [' ']) _ _ _ _ hread hcomment
  refine ⟨ls, place', afterWord', spaced', ⟨?_, ?_⟩, ?_⟩
  · rw [Tokens, map_token_of_face hface, htokens]
  · rw [text_of_face hface, htext, h.text_eq]
  · rw [List.cons_append, lexemesFrom_gap hgap, List.take_zero, List.drop_zero, heq]

/-! ## No blanks at the ends -/

/-- A text that neither starts nor ends with a blank. -/
def SharpText (s : String) : Prop :=
  ∃ c cs, s.toList = c :: cs ∧ Sharp c cs

theorem SharpText.append {a b : String} (ha : SharpText a) (gap : String) (hb : SharpText b) :
    SharpText (a ++ gap ++ b) := by
  obtain ⟨c, cs, hcs, hc⟩ := ha
  obtain ⟨d, ds, hds, hd⟩ := hb
  refine ⟨c, cs ++ gap.toList ++ d :: ds, ?_, hc.first, ?_⟩
  · rw [String.toList_append, String.toList_append, hcs, hds]
    simp
  · intro e he
    refine hd.last e ?_
    rw [← List.cons_append, ← List.cons_append, List.getLast?_append] at he
    simpa [List.getLast?_cons] using he

theorem sharpText_textAfter {s : String} (hs : SharpText s) {c : Clause}
    (hc : ∀ l ∈ c, SharpText l.text) : SharpText (s ++ c.textAfter) := by
  induction c generalizing s with
  | nil => simpa [Clause.textAfter] using hs
  | cons l c ih =>
      have hl := hs.append (if l.spaced then " " else "") (hc l List.mem_cons_self)
      have hrest := ih hl fun m hm => hc m (List.mem_cons_of_mem _ hm)
      rw [Clause.textAfter, ← String.append_assoc, ← String.append_assoc]
      exact hrest

theorem sharpText_of_lexed {place : Source.Place} {afterWord spaced : Bool} {cs : List Char}
    {ls : Clause} (h : Lexed place afterWord spaced cs ls) (hls : ∀ l ∈ ls, l.token ≠ .comment) :
    ∀ l ∈ ls, SharpText l.text := by
  induction h with
  | nil => exact fun l hl => absurd hl List.not_mem_nil
  | gap _ _ ih => exact ih hls
  | @token place afterWord spaced c rest token width ls found more ih =>
      have htoken : token ≠ .comment := hls _ List.mem_cons_self
      obtain ⟨-, -, hsharp⟩ := scan_append stops_nil (by simpa using htoken) found
      refine List.forall_mem_cons.2 ⟨?_, ih fun l hl => hls l (List.mem_cons_of_mem _ hl)⟩
      exact ⟨c, rest.take width, String.toList_ofList, hsharp (by simp)⟩

theorem IsFragment.sharpText {text : String} {c : Clause} (h : IsFragment text c) :
    SharpText text := by
  have hlexemes := sharpText_of_lexed (.of_lexemesFrom h.lexes) fun l hl => (h.tokens l hl).1
  cases c with
  | nil => exact absurd rfl h.ne_nil
  | cons l c =>
      rw [← h.text_eq]
      exact sharpText_textAfter (hlexemes l List.mem_cons_self)
        fun m hm => hlexemes m (List.mem_cons_of_mem _ hm)

theorem SharpText.trimmed {s : String} (h : SharpText s) : Text.trimmed s = s := by
  obtain ⟨c, cs, hcs, hc⟩ := h
  have htrim : Text.trim s.toList = s.toList := by
    rw [Text.trim_eq_self_iff, hcs]
    refine ⟨?_, hc.last⟩
    intro d hd
    obtain rfl := Option.some.inj hd
    exact hc.first
  rw [Text.trimmed, htrim, String.ofList_toList]

theorem SharpText.not_isBlankText {s : String} (h : SharpText s) :
    Text.isBlankText s = false := by
  obtain ⟨c, cs, hcs, hc⟩ := h
  rw [Text.isBlankText, hcs, List.all_cons, hc.first, Bool.false_and]

end Ddl

end EntityRelation
