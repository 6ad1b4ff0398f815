import EntityRelation.Proofs.Ddl.Reads

/-!
# Names in a script

A name is read back as itself, whatever it consists of: a plain word that is not reserved as a
word, and everything else as a word between delimiters. A word that is not reserved is none of the
keywords that a table body gives a meaning, except for four that are not reserved.
-/

namespace EntityRelation

namespace Ddl

open Lexer

/-- The token that a name is written as. -/
def nameToken (name : String) : Token :=
  if Dialect.needsQuotes name then .quotedWord name else .word name

@[simp] theorem name?_nameToken (name : String) : (nameToken name).name? = some name := by
  rw [nameToken]
  split
  · rfl
  · rfl

@[simp] theorem isWord_nameToken (name : String) : (nameToken name).isWord = true := by
  rw [nameToken]
  split
  · rfl
  · rfl

theorem nameToken_ne_comment (name : String) : (nameToken name == .comment) = false := by
  rw [beq_eq_false_iff_ne, nameToken]
  split
  · exact nofun
  · exact nofun

/-! ## Names are read back -/

theorem enclosed?_escape {close : Char} {tail : List Char} (h : ∀ d ∈ tail.head?, d ≠ close)
    (name : List Char) :
    enclosed? close (Dialect.escape close name ++ close :: tail) =
      some (name, (Dialect.escape close name).length + 1) := by
  induction name with
  | nil => exact enclosed?_closed h
  | cons c name ih =>
      rw [Dialect.escape, List.flatMap_cons, ← Dialect.escape]
      by_cases hc : c = close
      · rw [if_pos hc, hc, List.append_assoc, List.cons_append, List.cons_append, List.nil_append,
          enclosed?_doubled, ih]
        simp
      · rw [if_neg hc, List.append_assoc, List.singleton_append, enclosed?_of_ne hc, ih]
        simp

theorem scan_delimited {opening close : Char} (hclose : closing? opening = some close)
    {rest value : List Char} {width : Nat} (h : enclosed? close rest = some (value, width))
    (afterWord : Bool) :
    scan afterWord opening rest = found (.quotedWord (String.ofList value)) width := by
  have hopening : opening = '"' ∨ opening = '\x60' ∨ opening = '[' := by
    unfold closing? at hclose
    split at hclose
    · exact .inl rfl
    · exact .inr (.inl rfl)
    · exact .inr (.inr rfl)
    · exact absurd hclose (by simp)
  have hother : opening ∉ [' ', '\t', '\n', '\r', 'n', 'N', 'x', 'X', '\x27'] := by
    rcases hopening with rfl | rfl | rfl
    · decide
    · decide
    · decide
  simp only [List.mem_cons, List.not_mem_nil, or_false, not_or] at hother
  unfold scan
  simp only [hother, decide_false, Bool.or_self, Bool.false_and, Bool.false_eq_true, if_false,
    hclose, h]

theorem closing?_quoteOpen (d : Dialect) :
    closing? d.profile.quoteOpen = some d.profile.quoteClose := by
  cases d with
  | mySql | postgreSql | sqlite | sqlServer => rfl

theorem quoteClose_not_stop (d : Dialect) : d.profile.quoteClose ∉ stopChars := by
  cases d with
  | mySql | postgreSql | sqlite | sqlServer => decide

/-- What may follow a name so that it ends where it was written to end: anything but its closing
delimiter, or behind a plain word anything that does not go on with it. -/
def EndsName (d : Dialect) (name : String) (tail : List Char) : Prop :=
  if Dialect.needsQuotes name then ∀ c ∈ tail.head?, c ≠ d.profile.quoteClose else EndsWord tail

theorem endsName_of_stops (d : Dialect) (name : String) {tail : List Char} (h : Stops tail) :
    EndsName d name tail := by
  rw [EndsName]
  split
  · exact h.head?_ne (quoteClose_not_stop d)
  · exact h.endsWord

/-- One token starts where a name does, and it covers what was written for the name. -/
theorem scan_quote {d : Dialect} {name : String} {tail : List Char} (h : EndsName d name tail)
    (afterWord : Bool) :
    ∃ c cs, (d.quote name).toList = c :: cs ∧
      scan afterWord c (cs ++ tail) = found (nameToken name) cs.length := by
  rw [EndsName] at h
  rw [Dialect.quote, nameToken]
  split at h
  · next hquotes =>
    rw [if_pos hquotes, if_pos hquotes]
    refine ⟨_, _, by rw [String.toList_ofList, List.cons_append], ?_⟩
    have hvalue := enclosed?_escape h name.toList
    have hscan := scan_delimited (closing?_quoteOpen d) hvalue afterWord
    rw [String.ofList_toList] at hscan
    rw [List.append_assoc, List.singleton_append, hscan, List.length_append,
      List.length_singleton]
  · next hplain =>
    rw [if_neg hplain, if_neg hplain]
    rw [Bool.not_eq_true, Dialect.needsQuotes, Bool.or_eq_false_iff, Bool.not_eq_false'] at hplain
    obtain ⟨c, rest, hname, hc, hrest⟩ := exists_of_isPlain hplain.1
    refine ⟨c, rest, hname, ?_⟩
    rw [scan_word h hc hrest, ← hname, String.ofList_toList]

/-- A name gives one lexeme, and what follows it is read from behind the name on. -/
theorem lexemesFrom_quote_append {d : Dialect} {name : String} {tail : List Char}
    (h : EndsName d name tail) (place : Source.Place) (afterWord spaced : Bool) :
    lexemesFrom place afterWord spaced ((d.quote name).toList ++ tail) =
      (lexemesFrom (place.advance (d.quote name).toList) true false tail).map
        (⟨nameToken name, d.quote name, place, spaced⟩ :: ·) := by
  obtain ⟨c, cs, hcs, hscan⟩ := scan_quote h afterWord
  have hread := @lexemesFrom_token place _ spaced _ _ _ _ hscan
  rw [List.take_left, List.drop_left, ← hcs, String.ofList_toList, isWord_nameToken,
    nameToken_ne_comment] at hread
  have hsplit : (d.quote name).toList ++ tail = c :: (cs ++ tail) := by
    rw [hcs, List.cons_append]
  rw [hsplit, hread]

/-- A name is read back as one token. -/
theorem reads_quote (d : Dialect) (name : String) :
    Reads Stops (d.quote name).toList (Tokens [nameToken name]) := by
  intro tail htail place afterWord spaced
  refine ⟨[⟨nameToken name, d.quote name, place, spaced⟩], _, _, _, rfl,
    lexemesFrom_quote_append (endsName_of_stops d name htail) place afterWord spaced⟩

/-! ## Names are no keywords -/

theorem exists_spelling {word : String} {k : Keyword} (h : Keyword.ofWord? word = some k) :
    (k, String.ofList (Text.toUpper word.toList)) ∈ Keyword.spellings := by
  simp only [Keyword.ofWord?, Option.map_eq_some_iff] at h
  obtain ⟨⟨k', spelling⟩, hfind, rfl⟩ := h
  have hspelling := List.find?_some hfind
  rw [beq_iff_eq] at hspelling
  rw [← hspelling]
  exact List.mem_of_find?_eq_some hfind

/-- The words that start a clause of a table body or can stand in front of a name, as far as they
are reserved. -/
def reservedStarts : List Keyword :=
  [.constraint, .primary, .foreign, .unique, .check, .key, .index, .like, .ifWord]

/-- A name is none of the reserved keywords. -/
theorem keyword?_nameToken {name : String} {k : Keyword}
    (h : (nameToken name).keyword? = some k) : k ∉ reservedStarts := by
  rw [nameToken] at h
  split at h
  · exact absurd h (by simp [Token.keyword?])
  · next hplain =>
    rw [Bool.not_eq_true, Dialect.needsQuotes, Bool.or_eq_false_iff] at hplain
    have hword : String.ofList (Text.toUpper name.toList) ∉ Reserved.words := by
      intro hmem
      have hreserved := hplain.2
      rw [isReserved, List.contains_iff_mem.2 hmem] at hreserved
      exact absurd hreserved (by simp)
    exact (by decide : ∀ p ∈ Keyword.spellings, p.2 ∉ Reserved.words → p.1 ∉ reservedStarts) _
      (exists_spelling h) hword

theorem toNat_lt_of_plain {c : Char} (h : isPlainPart c = true) : c.toNat < 128 := by
  simp only [isPlainPart, Char.isAlphanum, Bool.or_eq_true, decide_eq_true_eq] at h
  rcases h with (halpha | hdigit) | rfl
  · rcases Bool.or_eq_true_iff.1 halpha with hupper | hlower
    · have hle : c.toNat ≤ 90 := (of_decide_eq_true hupper).2
      omega
    · have hle : c.toNat ≤ 122 := of_decide_eq_true (Bool.and_elim_right hlower)
      omega
  · exact Text.toNat_lt_of_isDigit hdigit
  · decide

theorem isPlainPart_of_isPlain {name : String} (h : Dialect.isPlain name = true) :
    ∀ c ∈ name.toList, isPlainPart c = true := by
  obtain ⟨c, rest, hname, hc, hrest⟩ := exists_of_isPlain h
  rw [hname]
  refine List.forall_mem_cons.2 ⟨?_, hrest⟩
  simp only [isPlainStart, Bool.or_eq_true, decide_eq_true_eq] at hc
  simp only [isPlainPart, Char.isAlphanum, Bool.or_eq_true, decide_eq_true_eq]
  tauto

/-- On plain words the full upper case is the ASCII one. -/
theorem toUpper_of_plain {cs : List Char} (h : ∀ c ∈ cs, isPlainPart c = true) :
    Text.toUpper cs = cs.map Char.toUpper := by
  induction cs with
  | nil => rfl
  | cons c cs ih =>
      have hc : Text.upperChar c = [c.toUpper] := if_pos (toNat_lt_of_plain (h c (by simp)))
      have htail := ih fun d hd => h d (List.mem_cons_of_mem _ hd)
      rw [Text.toUpper] at htail ⊢
      rw [List.flatMap_cons, hc, htail]
      rfl

/-- A plain word that spells a keyword is its spelling up to ASCII case. -/
theorem sameName_of_keyword?_nameToken {name : String} {k : Keyword}
    (h : (nameToken name).keyword? = some k) :
    ∃ spelling, (k, spelling) ∈ Keyword.spellings ∧ Text.sameName name spelling = true := by
  rw [nameToken] at h
  split at h
  · exact absurd h (by simp [Token.keyword?])
  · next hplain =>
    rw [Bool.not_eq_true, Dialect.needsQuotes, Bool.or_eq_false_iff, Bool.not_eq_false'] at hplain
    have hparts := isPlainPart_of_isPlain hplain.1
    refine ⟨_, exists_spelling h, ?_⟩
    have hfold : ∀ c ∈ name.toList, c.toUpper.toLower = c.toLower := fun c hc =>
      Text.ascii_cases (P := fun c => c.toUpper.toLower = c.toLower) (by decide)
        (toNat_lt_of_plain (hparts c hc))
    rw [Text.sameName, beq_iff_eq, Text.foldAscii, Text.foldAscii, String.toList_ofList,
      toUpper_of_plain hparts, List.map_map]
    exact (List.map_congr_left hfold).symm

/-! ## No name breaks out of its quotes -/

/-- Whatever a name consists of, one word is read where it was written, and this word gives the
name. Between delimiters it is no keyword; without them it is none of the keywords that start a
clause or may stand in front of a name, as far as these are reserved. -/
theorem quote_reads_as_one_word {d : Dialect} {name : String} {tail : List Char}
    (h : EndsName d name tail) (place : Source.Place) (afterWord spaced : Bool) :
    ∃ token : Token,
      lexemesFrom place afterWord spaced ((d.quote name).toList ++ tail) =
        (lexemesFrom (place.advance (d.quote name).toList) true false tail).map
          (⟨token, d.quote name, place, spaced⟩ :: ·) ∧
      token.isWord = true ∧ token.name? = some name ∧
      (Dialect.needsQuotes name = true → token.keyword? = none) ∧
      (Dialect.needsQuotes name = false →
        ∀ k ∈ [Keyword.constraint, .primary, .foreign, .unique, .check, .key, .index, .like, .ifWord],
          token.keyword? ≠ some k) := by
  refine ⟨nameToken name, lexemesFrom_quote_append h place afterWord spaced,
    isWord_nameToken name, name?_nameToken name, ?_, ?_⟩
  · intro hquotes
    rw [nameToken, if_pos hquotes]
    rfl
  · intro _ k hk hkeyword
    exact keyword?_nameToken hkeyword hk

/-- Closing brackets, a quote and the start of a comment stay inside the name. -/
theorem quote_reads_as_one_word_brackets :
    EndsName .sqlServer "a]'; --" " INT".toList ∧
      Dialect.sqlServer.quote "a]'; --" = "[a]]'; --]" ∧
      ∃ token : Token, token.name? = some "a]'; --" ∧ token.keyword? = none ∧
        lexemes "[a]]'; --] INT" =
          .ok [⟨token, "[a]]'; --]", ⟨1, 1⟩, false⟩, ⟨.word "INT", "INT", ⟨1, 12⟩, true⟩] := by
  have hends : EndsName .sqlServer "a]'; --" " INT".toList := by
    rw [EndsName, if_pos (by decide)]
    intro c hc
    obtain rfl : ' ' = c := by simpa using hc
    decide
  have hquote : Dialect.sqlServer.quote "a]'; --" = "[a]]'; --]" := by decide +kernel
  obtain ⟨token, hread, -, hname, hkeyword, -⟩ :=
    quote_reads_as_one_word hends .start false false
  refine ⟨hends, hquote, token, hname, hkeyword (by decide), ?_⟩
  have htail : lexemesFrom (Source.Place.start.advance "[a]]'; --]".toList) true false " INT".toList =
      .ok [⟨.word "INT", "INT", ⟨1, 12⟩, true⟩] := by
    decide +kernel
  rw [hquote, htail] at hread
  exact hread

end Ddl

end EntityRelation
