import EntityRelation.Ddl.Token

/-!
# Clauses

A clause is a list of lexemes. Readers of clauses take lexemes off its front and return what is
left, which is always a suffix: the lemmas `*_suffix` say so, and with them every reader that goes
on until the clause is used up is seen to end.

Parentheses group. `closeGroup?` finds the end of a group that has been opened, `group?` reads a
whole group, and `splitTopLevel` cuts a clause at the commas outside all groups.
-/

namespace EntityRelation

namespace Ddl

/-- A list of lexemes. -/
abbrev Clause := List Lexeme

namespace Clause

/-- What stands in a group whose opening parenthesis has been read, and what follows the closing
one; `depth` counts the groups inside it that are open. -/
def closeGroup? (depth : Nat) : Clause → Option (Clause × Clause)
  | [] => none
  | l :: rest =>
    match l.token, depth with
    | .rightParen, 0 => some ([], rest)
    | .rightParen, depth + 1 => (closeGroup? depth rest).map fun (inner, rest) => (l :: inner, rest)
    | .leftParen, depth => (closeGroup? (depth + 1) rest).map fun (inner, rest) => (l :: inner, rest)
    | _, depth => (closeGroup? depth rest).map fun (inner, rest) => (l :: inner, rest)

/-- Whether the clause starts with an opening parenthesis. -/
def startsGroup : Clause → Bool
  | l :: _ => l.token == .leftParen
  | [] => false

/-- The inside of the group that the clause starts with, and what follows it. A group that is
never closed takes all that is left. -/
def group? : Clause → Option (Clause × Clause)
  | [] => none
  | l :: rest =>
    if l.token = .leftParen then some ((closeGroup? 0 rest).getD (rest, [])) else none

/-- The clause after the group that it starts with, if it starts with one. -/
def skipGroup (c : Clause) : Clause :=
  match c.group? with
  | some (_, rest) => rest
  | none => c

/-- The parts of a clause between the commas outside all groups, the first part after the lexemes
`before` (last one first). -/
def splitFrom (before : Clause) (depth : Nat) : Clause → List Clause
  | [] => [before.reverse]
  | l :: rest =>
    match l.token, depth with
    | .comma, 0 => before.reverse :: splitFrom [] 0 rest
    | .leftParen, depth => splitFrom (l :: before) (depth + 1) rest
    | .rightParen, depth => splitFrom (l :: before) (depth - 1) rest
    | _, depth => splitFrom (l :: before) depth rest

/-- The parts of a clause between the commas outside all groups, without the empty ones. -/
def splitTopLevel (c : Clause) : List Clause :=
  (splitFrom [] 0 c).filter (!·.isEmpty)

/-- The source text of lexemes that follow others, with one blank for every gap. -/
def textAfter : Clause → String
  | [] => ""
  | l :: rest => (if l.spaced then " " else "") ++ l.text ++ textAfter rest

/-- The source text of a clause, with one blank for every gap inside it. -/
def text : Clause → String
  | [] => ""
  | l :: rest => l.text ++ textAfter rest

/-- The names of a list of columns: the first name of each entry, so that `a, b DESC, c(10)` names
three columns. -/
def columnNames (c : Clause) : List String :=
  c.splitTopLevel.filterMap fun entry => entry.head?.bind Lexeme.name?

/-! ## Taking words off the front -/

/-- Whether the clause starts with the keyword. -/
def startsWith (k : Keyword) : Clause → Bool
  | l :: _ => l.isKeyword k
  | [] => false

/-- Whether the clause starts with one of the keywords. -/
def startsWithAny (ks : List Keyword) (c : Clause) : Bool :=
  ks.any c.startsWith

/-- What follows a run of keywords; none when the clause does not start with all of them. -/
def after? : List Keyword → Clause → Option Clause
  | [], c => some c
  | k :: ks, l :: rest => if l.isKeyword k then after? ks rest else none
  | _ :: _, [] => none

/-- The clause after a run of keywords, if it starts with all of them. -/
def skip (ks : List Keyword) (c : Clause) : Clause :=
  (after? ks c).getD c

/-- The clause after one of the keywords, if it starts with one. -/
def skipAny (ks : List Keyword) : Clause → Clause
  | l :: rest => if l.isAny ks then rest else l :: rest
  | [] => []

/-- The clause after the keywords that it starts with. -/
def skipAll (ks : List Keyword) (c : Clause) : Clause :=
  c.dropWhile (·.isAny ks)

/-- The last of the names `a.b.c` after a first name, and what follows them. -/
def qualifiedFrom (name : String) : Clause → String × Clause
  | point :: part :: rest =>
    if point.token = .period then
      match part.name? with
      | some name => qualifiedFrom name rest
      | none => (name, point :: part :: rest)
    else (name, point :: part :: rest)
  | c => (name, c)

/-- The table that a name stands for, qualified or not, and what follows the name. -/
def tableName? : Clause → Option (String × Clause)
  | l :: rest => l.name?.map fun name => qualifiedFrom name rest
  | [] => none

/-! ## What is left is a suffix -/

theorem closeGroup?_suffix {c inner rest : Clause} {depth : Nat}
    (h : closeGroup? depth c = some (inner, rest)) : rest <:+ c := by
  induction c generalizing depth inner with
  | nil => simp [closeGroup?] at h
  | cons l more ih =>
    simp only [closeGroup?] at h
    split at h
    · obtain ⟨-, rfl⟩ := by simpa using h
      exact List.suffix_cons l _
    all_goals
      simp only [Option.map_eq_some_iff, Prod.mk.injEq] at h
      obtain ⟨⟨i, r⟩, hr, -, rfl⟩ := h
      exact (ih hr).trans (List.suffix_cons l _)

theorem group?_suffix {c inner rest : Clause} (h : c.group? = some (inner, rest)) :
    rest <:+ c := by
  cases c with
  | nil => simp [group?] at h
  | cons l more =>
    simp only [group?] at h
    split at h
    · cases hc : closeGroup? 0 more with
      | none =>
        obtain ⟨-, rfl⟩ := by simpa [hc] using h
        exact List.nil_suffix
      | some pair =>
        obtain ⟨i, r⟩ := pair
        obtain ⟨-, rfl⟩ := by simpa [hc] using h
        exact (closeGroup?_suffix hc).trans (List.suffix_cons l _)
    · simp at h

theorem skipGroup_suffix (c : Clause) : c.skipGroup <:+ c := by
  unfold skipGroup
  split
  · next h => exact group?_suffix h
  · exact List.suffix_refl c

theorem after?_suffix {ks : List Keyword} {c rest : Clause} (h : after? ks c = some rest) :
    rest <:+ c := by
  induction ks generalizing c with
  | nil =>
    obtain rfl := by simpa [after?] using h
    exact List.suffix_refl _
  | cons k ks ih =>
    cases c with
    | nil => simp [after?] at h
    | cons l more =>
      simp only [after?] at h
      split at h
      · exact (ih h).trans (List.suffix_cons l _)
      · simp at h

theorem skip_suffix (ks : List Keyword) (c : Clause) : c.skip ks <:+ c := by
  unfold skip
  cases h : after? ks c with
  | none => exact List.suffix_refl c
  | some rest => exact after?_suffix h

theorem skipAny_suffix (ks : List Keyword) (c : Clause) : c.skipAny ks <:+ c := by
  cases c with
  | nil => exact List.suffix_refl _
  | cons l rest =>
    simp only [skipAny]
    split
    · exact List.suffix_cons l _
    · exact List.suffix_refl _

theorem qualifiedFrom_suffix (name : String) (c : Clause) : (qualifiedFrom name c).2 <:+ c := by
  fun_induction qualifiedFrom name c with
  | case1 _ point part rest _ name _ ih =>
    exact ih.trans ((List.suffix_cons part _).trans (List.suffix_cons point _))
  | case2 => exact List.suffix_refl _
  | case3 => exact List.suffix_refl _
  | case4 => exact List.suffix_refl _

theorem tableName?_suffix {c rest : Clause} {name : String}
    (h : c.tableName? = some (name, rest)) : rest <:+ c := by
  cases c with
  | nil => simp [tableName?] at h
  | cons l more =>
    simp only [tableName?, Option.map_eq_some_iff] at h
    obtain ⟨first, -, h⟩ := h
    have := qualifiedFrom_suffix first more
    rw [h] at this
    exact this.trans (List.suffix_cons l _)

end Clause

end Ddl

end EntityRelation
