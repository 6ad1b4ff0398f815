import EntityRelation.Ddl.Clause
import EntityRelation.Dialect.Basic
import EntityRelation.Proofs.Ddl.Lexed
import EntityRelation.Proofs.Ddl.Scan
import EntityRelation.Proofs.Text.Numeral

/-!
# Reading a text in pieces

`Reads ok cs P` says that a piece `cs` of a script gives lexemes with the property `P`, wherever it
stands and whatever follows it, as long as what follows is `ok`. Pieces that stand one after the
other are read one after the other (`Reads.append`), so a script is read by reading what it is put
together from.
-/

namespace EntityRelation

namespace Ddl

namespace Lexer

theorem map_nil_append {ε α : Type} (x : Except ε (List α)) : x.map ([] ++ ·) = x := by
  cases x <;> rfl

theorem map_cons_map_append {ε α : Type} (a : α) (as : List α) (x : Except ε (List α)) :
    (x.map (as ++ ·)).map (a :: ·) = x.map (a :: as ++ ·) := by
  cases x <;> rfl

/-- A piece of a script gives lexemes with a property, wherever it stands. -/
def Reads (ok : List Char → Prop) (cs : List Char) (P : Clause → Prop) : Prop :=
  ∀ tail, ok tail → ∀ place afterWord spaced, ∃ ls place' afterWord' spaced',
    P ls ∧ lexemesFrom place afterWord spaced (cs ++ tail) =
      (lexemesFrom place' afterWord' spaced' tail).map (ls ++ ·)

/-- Any text may follow. -/
def Anything (_ : List Char) : Prop := True

namespace Reads

variable {ok ok' : List Char → Prop} {cs ds : List Char} {P Q : Clause → Prop}

theorem mono (h : Reads ok cs P) (hPQ : ∀ ls, P ls → Q ls) : Reads ok cs Q := by
  intro tail htail place afterWord spaced
  obtain ⟨ls, place', afterWord', spaced', hP, heq⟩ := h tail htail place afterWord spaced
  exact ⟨ls, place', afterWord', spaced', hPQ ls hP, heq⟩

theorem weaken (h : Reads ok cs P) (hok : ∀ tail, ok' tail → ok tail) : Reads ok' cs P :=
  fun tail htail => h tail (hok tail htail)

theorem append (hc : Reads ok cs P) (hd : Reads ok' ds Q) (hok : ∀ tail, ok' tail → ok (ds ++ tail)) :
    Reads ok' (cs ++ ds) fun ls => ∃ as bs, ls = as ++ bs ∧ P as ∧ Q bs := by
  intro tail htail place afterWord spaced
  obtain ⟨as, place₁, afterWord₁, spaced₁, hP, hfirst⟩ :=
    hc (ds ++ tail) (hok tail htail) place afterWord spaced
  obtain ⟨bs, place₂, afterWord₂, spaced₂, hQ, hsecond⟩ :=
    hd tail htail place₁ afterWord₁ spaced₁
  refine ⟨as ++ bs, place₂, afterWord₂, spaced₂, ⟨as, bs, rfl, hP, hQ⟩, ?_⟩
  rw [List.append_assoc, hfirst, hsecond]
  cases lexemesFrom place₂ afterWord₂ spaced₂ tail with
  | error e => rfl
  | ok more => simp [Except.map]

theorem nil : Reads ok [] (· = []) := by
  intro tail _ place afterWord spaced
  exact ⟨[], place, afterWord, spaced, rfl, (map_nil_append _).symm⟩

/-- A gap gives no lexemes. -/
theorem gap {c : Char} (hc : c = ' ' ∨ c = '\n') : Reads Anything [c] (· = []) := by
  intro tail _ place afterWord spaced
  have hscan : scan afterWord c tail = .ok (none, 0) := by
    have hgap : (c = ' ' || c = '\t' || c = '\n' || c = '\r') = true := by
      rcases hc with rfl | rfl
      · decide
      · decide
    unfold scan
    rw [if_pos hgap]
  refine ⟨[], place.advance [c], false, true, rfl, ?_⟩
  have hread := @lexemesFrom_gap place _ spaced _ _ _ hscan
  rw [List.take_zero, List.drop_zero] at hread
  rw [List.singleton_append, hread, map_nil_append]

/-- One token. -/
theorem token {c : Char} {token : Token}
    (hscan : ∀ tail, ok tail → ∀ afterWord,
      scan afterWord c (cs ++ tail) = .ok (some token, cs.length)) :
    Reads ok (c :: cs) fun ls =>
      ∃ l, ls = [l] ∧ l.token = token ∧ l.text = String.ofList (c :: cs) := by
  intro tail htail place afterWord spaced
  have hread := @lexemesFrom_token place _ spaced _ _ _ _ (hscan tail htail afterWord)
  rw [List.take_left, List.drop_left] at hread
  exact ⟨_, _, _, _, ⟨_, rfl, rfl, rfl⟩, hread⟩

end Reads

/-- Lexemes with certain tokens. -/
def Tokens (ts : List Token) (ls : Clause) : Prop :=
  ls.map Lexeme.token = ts

namespace Reads

variable {ok ok' : List Char → Prop} {cs ds : List Char} {ts us : List Token}

theorem tokens_append (hc : Reads ok cs (Tokens ts)) (hd : Reads ok' ds (Tokens us))
    (hok : ∀ tail, ok' tail → ok (ds ++ tail)) : Reads ok' (cs ++ ds) (Tokens (ts ++ us)) := by
  refine (hc.append hd hok).mono ?_
  rintro ls ⟨as, bs, rfl, has, hbs⟩
  rw [Tokens, List.map_append, has, hbs]

/-- Blanks in front make no difference. -/
theorem after_gap {P : Clause → Prop} (h : Reads ok cs P) {c : Char} (hc : c = ' ' ∨ c = '\n') :
    Reads ok (c :: cs) P := by
  refine ((gap hc).append h fun _ _ => trivial).mono ?_
  rintro ls ⟨as, bs, rfl, rfl, hbs⟩
  exact hbs

/-- Blanks behind make no difference. -/
theorem before_gap {P : Clause → Prop} (h : Reads Stops cs P) {c : Char}
    (hc : c = ' ' ∨ c = '\n') : Reads Anything (cs ++ [c]) P := by
  have hstop : c ∈ stopChars := by
    rcases hc with rfl | rfl
    · decide
    · decide
  refine (h.append (gap hc) fun tail _ => stops_cons hstop tail).mono ?_
  rintro ls ⟨as, bs, rfl, has, rfl⟩
  rw [List.append_nil]
  exact has

end Reads

/-! ## Words and signs -/

/-- Whether a plain word may start with the character. -/
def isPlainStart (c : Char) : Bool :=
  c.isAlpha || c = '_'

/-- Whether a plain word may go on with the character. -/
def isPlainPart (c : Char) : Bool :=
  c.isAlphanum || c = '_'

theorem exists_of_isPlain {name : String} (h : Dialect.isPlain name = true) :
    ∃ c rest, name.toList = c :: rest ∧ isPlainStart c = true ∧
      ∀ d ∈ rest, isPlainPart d = true := by
  rw [Dialect.isPlain] at h
  split at h
  · next c rest hname =>
    rw [Bool.and_eq_true, List.all_eq_true] at h
    exact ⟨c, rest, hname, h.1, h.2⟩
  · exact absurd h (by simp)

theorem isWordStart_of_plain {c : Char} (h : isPlainStart c = true) : isWordStart c = true := by
  simp only [isPlainStart, Bool.or_eq_true, decide_eq_true_eq] at h
  simp only [isWordStart, Text.isLetter, Bool.or_eq_true, decide_eq_true_eq]
  rcases h with halpha | hscore
  · exact Or.inl (Or.inl halpha)
  · exact Or.inr hscore

theorem isWordPart_of_plain {c : Char} (h : isPlainPart c = true) : isWordPart c = true := by
  simp only [isPlainPart, Char.isAlphanum, Bool.or_eq_true, decide_eq_true_eq] at h
  simp only [isWordPart, Text.isLetterOrNumeric, Text.isLetter, Text.isNumeric, Bool.or_eq_true,
    decide_eq_true_eq]
  tauto

/-- A text that does not go on with a word in front of it, nor makes a text of it as in `N'a'`. -/
def EndsWord (tail : List Char) : Prop :=
  ∀ d ∈ tail.head?, isWordPart d = false ∧ d ≠ '\x27'

theorem Stops.endsWord {tail : List Char} (h : Stops tail) : EndsWord tail :=
  fun d hd => ⟨isWordPart_stop d (h d hd), h.head?_ne (by decide) d hd⟩

theorem scan_word {tail : List Char} (h : EndsWord tail) {c : Char} {rest : List Char}
    (hc : isPlainStart c = true) (hrest : ∀ d ∈ rest, isPlainPart d = true) (afterWord : Bool) :
    scan afterWord c (rest ++ tail) = found (.word (String.ofList (c :: rest))) rest.length := by
  have hne : ∀ x, isPlainStart x = false → c ≠ x := by
    rintro x hx rfl
    rw [hc] at hx
    exact absurd hx (by simp)
  have hquote : ((rest ++ tail).head? == some '\x27') = false := by
    rw [beq_eq_false_iff_ne]
    intro hhead
    cases rest with
    | nil => exact (h _ hhead).2 rfl
    | cons d more =>
        obtain rfl := Option.some.inj hhead
        exact absurd (hrest '\x27' List.mem_cons_self) (by decide)
  have hclosing : closing? c = none := by
    unfold closing?
    split
    · exact absurd rfl (hne '"' (by decide))
    · exact absurd rfl (hne '\x60' (by decide))
    · exact absurd rfl (hne '[' (by decide))
    · rfl
  have hdigit : c.isDigit = false := by
    by_contra hdigit
    rw [Bool.not_eq_false] at hdigit
    have hplain := Text.ascii_cases (P := fun c => c.isDigit = true → isPlainStart c = false)
      (by decide) (Text.toNat_lt_of_isDigit hdigit) hdigit
    rw [hc] at hplain
    exact absurd hplain (by simp)
  have hblank := hne ' ' (by decide)
  have htab := hne '\t' (by decide)
  have hfeed := hne '\n' (by decide)
  have hreturn := hne '\r' (by decide)
  have hstring := hne '\x27' (by decide)
  have hpoint := hne '.' (by decide)
  have hdash := hne '-' (by decide)
  have hslash := hne '/' (by decide)
  have hdollar := hne '$' (by decide)
  have hmark := hne '?' (by decide)
  have hparts : (rest ++ tail).takeWhile isWordPart = rest := by
    have htail : tail.takeWhile isWordPart = [] := by
      cases tail with
      | nil => rfl
      | cons d more => rw [List.takeWhile_cons, (h d rfl).1, if_neg Bool.false_ne_true]
    rw [List.takeWhile_append_of_pos fun d hd => isWordPart_of_plain (hrest d hd), htail,
      List.append_nil]
  unfold scan
  rw [hquote, hclosing]
  simp only [hblank, htab, hfeed, hreturn, hstring, hpoint, hdash, hslash, hdollar, hmark, hdigit,
    isWordStart_of_plain hc, decide_false, Bool.or_self, Bool.false_and, Bool.and_false,
    Bool.false_eq_true, if_false, if_true, scanWord, hparts]

namespace Reads

theorem sign {c : Char} {token : Token}
    (h : ∀ afterWord tail, scan afterWord c tail = .ok (some token, 0)) :
    Reads Anything [c] (Tokens [token]) := by
  refine (@Reads.token _ [] _ _ fun tail _ afterWord => h afterWord tail).mono ?_
  rintro ls ⟨l, rfl, htoken, -⟩
  rw [Tokens, List.map_singleton, htoken]

theorem leftParen : Reads Anything ['('] (Tokens [.leftParen]) :=
  sign fun _ _ => rfl

theorem rightParen : Reads Anything [')'] (Tokens [.rightParen]) :=
  sign fun _ _ => rfl

theorem comma : Reads Anything [','] (Tokens [.comma]) :=
  sign fun _ _ => rfl

theorem semicolon : Reads Anything [';'] (Tokens [.semicolon]) :=
  sign fun _ _ => rfl

/-- A plain word is one token. -/
theorem plainWord {word : String} (h : Dialect.isPlain word = true) :
    Reads Stops word.toList fun ls => ∃ l, ls = [l] ∧ l.token = .word word ∧ l.text = word := by
  obtain ⟨c, rest, hword, hc, hrest⟩ := exists_of_isPlain h
  have hread := @Reads.token Stops rest _ _ fun _ htail afterWord =>
    scan_word htail.endsWord hc hrest afterWord
  rw [← hword, String.ofList_toList] at hread
  exact hread

/-- Plain words with a blank before each. -/
theorem words (words : List String) (h : ∀ word ∈ words, Dialect.isPlain word = true) :
    Reads Stops (words.flatMap fun word => ' ' :: word.toList) (Tokens (words.map .word)) := by
  induction words with
  | nil =>
      refine (nil.weaken fun _ _ => trivial).mono ?_
      rintro ls rfl
      rfl
  | cons word words ih =>
      have hfirst : Reads Stops (' ' :: word.toList) (Tokens [.word word]) := by
        refine ((plainWord (h word List.mem_cons_self)).after_gap (Or.inl rfl)).mono ?_
        rintro ls ⟨l, rfl, htoken, -⟩
        rw [Tokens, List.map_singleton, htoken]
      refine hfirst.tokens_append (ih fun word hw => h word (List.mem_cons_of_mem _ hw)) ?_
      intro tail htail
      cases words with
      | nil => exact htail
      | cons word' words => exact stops_cons (by decide) _

end Reads

end Lexer

end Ddl

end EntityRelation
