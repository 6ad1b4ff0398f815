import EntityRelation.Dialect.Basic
import EntityRelation.Syntax.Error
import EntityRelation.Text.Digit

/-!
# Reading lexemes

A reader of a part of the grammar takes it off the front of the lexemes and returns what is left,
or the fault that it meets. Keywords are words without delimiters, compared by their upper case.
-/

namespace EntityRelation

namespace Syntax

/-- What is left of the lexemes after a part of the grammar, or the fault in it. -/
abbrev Reading := Except SyntaxError (List Lexeme)

/-- The fault that something else was expected than what the lexemes start with. -/
def unexpected {α : Type} (e : Expectation) (c : List Lexeme) : Except SyntaxError α :=
  .error (.unexpected e c.head?)

/-- The refusal of what the lexemes start with. -/
def refused {α : Type} (r : Refusal) (c : List Lexeme) : Except SyntaxError α :=
  .error (.refused r (c.head?.map (·.place)))

namespace Lexeme

/-- Whether the lexeme is the keyword. -/
def isKeyword (l : Lexeme) (word : String) : Bool :=
  l.token.keyword? == some word

/-- Whether the lexeme is one of the keywords. -/
def isOneOf (l : Lexeme) (words : List String) : Bool :=
  l.token.keyword?.any words.contains

/-- Whether the lexeme is the symbol. -/
def isSymbol (l : Lexeme) (text : String) : Bool :=
  l.token == .symbol text

end Lexeme

/-! ## Keywords and symbols -/

/-- Whether the lexemes start with the keyword. -/
def startsWith (word : String) (c : List Lexeme) : Bool :=
  c.head?.any (·.isKeyword word)

/-- Whether the lexemes start with one of the keywords. -/
def startsWithOneOf (words : List String) (c : List Lexeme) : Bool :=
  c.head?.any (·.isOneOf words)

/-- Whether the lexemes start with the symbol. -/
def startsSymbol (text : String) (c : List Lexeme) : Bool :=
  c.head?.any (·.isSymbol text)

/-- What follows a run of keywords; none when the lexemes do not start with all of them. -/
def after? : List String → List Lexeme → Option (List Lexeme)
  | [], c => some c
  | word :: words, l :: rest => if l.isKeyword word then after? words rest else none
  | _ :: _, [] => none

theorem after?_suffix {words : List String} {c rest : List Lexeme}
    (h : after? words c = some rest) : rest <:+ c := by
  induction words generalizing c with
  | nil => simp_all [after?]
  | cons word words ih =>
    cases c with
    | nil => simp [after?] at h
    | cons l c =>
      simp only [after?] at h
      split at h
      · exact (ih h).trans (List.suffix_cons l c)
      · simp at h

/-- What follows the first of several runs of keywords that the lexemes start with. -/
def afterFirst? (runs : List (List String)) (c : List Lexeme) : Option (List Lexeme) :=
  runs.findSome? fun words => after? words c

/-- The lexemes after a run of keywords, if they start with all of them. -/
def skip (words : List String) (c : List Lexeme) : List Lexeme :=
  (after? words c).getD c

theorem skip_suffix (words : List String) (c : List Lexeme) : skip words c <:+ c := by
  unfold skip
  cases h : after? words c with
  | none => exact List.suffix_refl c
  | some rest => exact after?_suffix h

/-- The lexemes after one of the keywords, if they start with one. -/
def skipOneOf (words : List String) (c : List Lexeme) : List Lexeme :=
  if startsWithOneOf words c then c.drop 1 else c

/-- The lexemes after a symbol, if they start with it. -/
def skipSymbol (text : String) (c : List Lexeme) : List Lexeme :=
  if startsSymbol text c then c.drop 1 else c

/-- The lexemes after the first of the symbols, if they start with one. -/
def skipOneSymbol (texts : List String) (c : List Lexeme) : List Lexeme :=
  if texts.any (startsSymbol · c) then c.drop 1 else c

/-- Read a keyword. -/
def keyword (word : String) (c : List Lexeme) : Reading :=
  if startsWith word c then .ok (c.drop 1) else unexpected (.keyword word) c

/-- Read one of several keywords. -/
def oneOf (words : List String) (c : List Lexeme) : Reading :=
  if startsWithOneOf words c then .ok (c.drop 1) else unexpected (.oneOf words) c

/-- Read several keywords. -/
def keywords (words : List String) (c : List Lexeme) : Reading :=
  words.foldlM (fun c word => keyword word c) c

/-- Read a symbol. -/
def symbol (text : String) (c : List Lexeme) : Reading :=
  if startsSymbol text c then .ok (c.drop 1) else unexpected (.symbol text) c

/-! ## Names -/

/-- Read a name. -/
def identifier : List Lexeme → Reading
  | [] => unexpected .identifier []
  | l :: rest => if l.token.isName then .ok rest else unexpected .identifier (l :: rest)

/-- Read names with points between them. -/
def qualified : List Lexeme → Reading
  | [] => unexpected .identifier []
  | l :: rest =>
    if l.token.isName then
      match rest with
      | [] => .ok []
      | p :: more => if p.isSymbol "." then qualified more else .ok (p :: more)
    else unexpected .identifier (l :: rest)

/-- Read the name of an object, which SQL Server may write without its second part: `a..b`. -/
def objectName (d : Dialect) (c : List Lexeme) : Reading :=
  match d, c with
  | .sqlServer, l :: p :: q :: rest =>
    if l.token.isName && p.isSymbol "." && q.isSymbol "." then qualified rest else qualified c
  | _, _ => qualified c

/-! ## Numbers -/

/-- Read a whole number. -/
def integer (expected : Expectation) (kind : IntegerKind) : List Lexeme → Reading
  | [] => unexpected expected []
  | l :: rest =>
    match l.token with
    | .number digits _ =>
      let cs := digits.toList
      if cs.all Char.isDigit && Text.decimalValue cs < kind.bound then .ok rest
      else .error (.badInteger digits kind l.place)
    | _ => unexpected expected (l :: rest)

/-! ## Lists and groups -/

/-! What is read again and again takes at least one lexeme every time. So a list of the lexemes that
were there at first bounds the number of times, and a recursion on that list comes to its end only
when no lexeme is left. -/

/-- Read items with commas between them; `bound` has at least as many lexemes as there are. -/
def separatedWithin (item : List Lexeme → Reading) (bound c : List Lexeme) : Reading :=
  match bound with
  | [] => item c
  | _ :: bound => do
    let rest ← item c
    if startsSymbol "," rest then separatedWithin item bound (rest.drop 1) else return rest

/-- Read items with commas between them. -/
def separated (item : List Lexeme → Reading) (c : List Lexeme) : Reading :=
  separatedWithin item c c

/-- Read a list of items between parentheses. -/
def group (item : List Lexeme → Reading) (c : List Lexeme) : Reading := do
  symbol ")" (← separated item (← symbol "(" c))

/-- Read a list of columns between parentheses, which has to be there. -/
def columnGroup (item : List Lexeme → Reading) (c : List Lexeme) : Reading :=
  if startsSymbol "(" c then group item c else unexpected .columnList c

/-- Read a list of columns between parentheses, if there is one. -/
def optionalGroup (item : List Lexeme → Reading) (c : List Lexeme) : Reading :=
  if startsSymbol "(" c then group item c else .ok c

/-- A part of the grammar that may be there: how it is read, if the lexemes start with it. -/
abbrev Part := List Lexeme → Option Reading

/-- Read parts as long as there is one; `bound` has at least as many lexemes as there are. -/
def repeatedWithin (part? : Part) (bound c : List Lexeme) : Reading :=
  match bound with
  | [] => .ok c
  | _ :: bound =>
    match part? c with
    | none => .ok c
    | some reading => do repeatedWithin part? bound (← reading)

/-- Read parts as long as there is one. -/
def repeated (part? : Part) (c : List Lexeme) : Reading :=
  repeatedWithin part? c c

/-- The part that follows a run of keywords. -/
def part (words : List String) (read : List Lexeme → Reading) : Part := fun c =>
  (after? words c).map read

/-- The first of the parts that the lexemes start with, and the other parts. -/
def pick? : List Part → List Lexeme → Option (Reading × List Part)
  | [], _ => none
  | p :: ps, c =>
    match p c with
    | some reading => some (reading, ps)
    | none => (pick? ps c).map fun (reading, others) => (reading, p :: others)

/-- Read parts in any order, none of them twice, at most so many. -/
def eachOnceWithin : Nat → List Part → List Lexeme → Reading
  | 0, _, c => .ok c
  | n + 1, parts, c =>
    match pick? parts c with
    | none => .ok c
    | some (reading, others) => do eachOnceWithin n others (← reading)

/-- Read parts in any order, none of them twice. -/
def eachOnce (parts : List Part) (c : List Lexeme) : Reading :=
  eachOnceWithin parts.length parts c

/-- What stands in front of the end of the group or statement around the lexemes is passed over;
`depth` counts the groups that are open. -/
def passOver (depth : Nat) : List Lexeme → List Lexeme
  | [] => []
  | l :: rest =>
    if l.isSymbol ";" then l :: rest
    else if l.isSymbol "(" then passOver (depth + 1) rest
    else if l.isSymbol ")" then
      match depth with
      | 0 => l :: rest
      | depth + 1 => passOver depth rest
    else passOver depth rest

theorem passOver_suffix (depth : Nat) (c : List Lexeme) : passOver depth c <:+ c := by
  fun_induction passOver depth c with
  | case1 => exact List.suffix_refl _
  | case2 => exact List.suffix_refl _
  | case3 _ l rest _ _ ih => exact ih.trans (List.suffix_cons l rest)
  | case4 => exact List.suffix_refl _
  | case5 l rest _ _ _ _ ih => exact ih.trans (List.suffix_cons l rest)
  | case6 _ l rest _ _ _ ih => exact ih.trans (List.suffix_cons l rest)

/-- Read a group whatever stands in it. -/
def anyGroup (c : List Lexeme) : Reading := do
  symbol ")" (passOver 0 (← symbol "(" c))

end Syntax

end EntityRelation
