import EntityRelation.Ddl.Lexer

/-!
# Cutting a text step by step

The lexemes of a text are found one scan at a time (`Lexed`). What is true of all lexemes of a text
is proved by induction on the scans.
-/

namespace EntityRelation

namespace Ddl

namespace Lexer

/-- A text that starts at a place, follows a word or not, and follows a gap or not is cut into
lexemes. -/
inductive Lexed : Source.Place → Bool → Bool → List Char → List Lexeme → Prop where
  | nil {place : Source.Place} {afterWord spaced : Bool} : Lexed place afterWord spaced [] []
  | gap {place : Source.Place} {afterWord spaced : Bool} {c : Char} {rest : List Char} {width : Nat}
      {ls : List Lexeme} (found : scan afterWord c rest = .ok (none, width))
      (more : Lexed (place.advance (c :: rest.take width)) false true (rest.drop width) ls) :
      Lexed place afterWord spaced (c :: rest) ls
  | token {place : Source.Place} {afterWord spaced : Bool} {c : Char} {rest : List Char}
      {token : Token} {width : Nat} {ls : List Lexeme}
      (found : scan afterWord c rest = .ok (some token, width))
      (more : Lexed (place.advance (c :: rest.take width)) token.isWord (token == .comment)
        (rest.drop width) ls) :
      Lexed place afterWord spaced (c :: rest)
        (⟨token, String.ofList (c :: rest.take width), place, spaced⟩ :: ls)

variable {place : Source.Place} {afterWord spaced : Bool} {c : Char} {cs rest : List Char}
  {width : Nat} {ls : List Lexeme}

/-- What `lexemesFrom` gives when one more token stands in front. -/
theorem lexemesFrom_token {token : Token} (h : scan afterWord c rest = .ok (some token, width)) :
    lexemesFrom place afterWord spaced (c :: rest) =
      (lexemesFrom (place.advance (c :: rest.take width)) token.isWord (token == .comment)
        (rest.drop width)).map
        (⟨token, String.ofList (c :: rest.take width), place, spaced⟩ :: ·) := by
  rw [lexemesFrom, h]
  dsimp only
  cases lexemesFrom (place.advance (c :: rest.take width)) token.isWord (token == .comment)
    (rest.drop width) <;> rfl

theorem lexemesFrom_gap (h : scan afterWord c rest = .ok (none, width)) :
    lexemesFrom place afterWord spaced (c :: rest) =
      lexemesFrom (place.advance (c :: rest.take width)) false true (rest.drop width) := by
  rw [lexemesFrom, h]

theorem Lexed.of_lexemesFrom (h : lexemesFrom place afterWord spaced cs = .ok ls) :
    Lexed place afterWord spaced cs ls := by
  fun_induction lexemesFrom place afterWord spaced cs generalizing ls with
  | case1 =>
      obtain rfl := Except.ok.inj h
      exact .nil
  | case2 => cases h
  | case3 _ _ _ _ _ _ _ _ hscan =>
      rename_i ih
      exact .gap hscan (ih h)
  | case4 => cases h
  | case5 _ _ _ _ _ _ _ _ _ _ hmore hscan =>
      rename_i ih
      obtain rfl := Except.ok.inj h
      exact .token hscan (ih hmore)

theorem Lexed.lexemesFrom_eq (h : Lexed place afterWord spaced cs ls) :
    lexemesFrom place afterWord spaced cs = .ok ls := by
  induction h with
  | nil => rw [lexemesFrom]
  | gap found _ ih => rw [lexemesFrom_gap found, ih]
  | token found _ ih =>
      rw [lexemesFrom_token found, ih]
      rfl

/-- Scanning a text succeeds exactly when it is cut into lexemes so. -/
theorem lexemesFrom_eq_ok_iff :
    lexemesFrom place afterWord spaced cs = .ok ls ↔ Lexed place afterWord spaced cs ls :=
  ⟨.of_lexemesFrom, Lexed.lexemesFrom_eq⟩

end Lexer

end Ddl

end EntityRelation
