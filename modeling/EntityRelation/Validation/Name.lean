import EntityRelation.Dialect.Reserved
import EntityRelation.Text.Blank

/-!
# Rules for names

A table name should be a plain word that is not reserved and not too long. `checkName` collects
every rule that a name breaks, sorted into errors and warnings by the level of strictness.
`sanitize?` turns any text into a plain word, if it holds a letter.
-/

namespace EntityRelation

/-- The limit on the length of a name, in bytes, where no dialect states one. -/
def maxNameLength : Nat := 64

/-- A rule that a name breaks. -/
inductive NameFault where
  | empty
  | tooLong (max actual : Nat)
  /-- Characters other than ASCII letters, digits and underscores. -/
  | invalidCharacters (invalid : List Char)
  | startsWithDigit
  | startsWithUnderscore
  | reserved (name : String)
  | noLetters
  | consecutiveUnderscores
  | endsWithUnderscore
  deriving DecidableEq, Repr

namespace NameFault

/-- The wording of a fault. -/
def message : NameFault → String
  | empty => "name cannot be empty"
  | tooLong max actual =>
    "name is too long (" ++ toString actual ++ " chars, max " ++ toString max ++ ")"
  | invalidCharacters invalid =>
    "name contains invalid characters: '" ++ String.ofList invalid ++
      "'. Only letters, numbers, and underscores are allowed"
  | startsWithDigit => "name cannot start with a digit"
  | startsWithUnderscore => "name should not start with an underscore"
  | reserved name => "'" ++ name ++ "' is a reserved SQL keyword"
  | noLetters => "name must contain at least one letter"
  | consecutiveUnderscores => "name cannot contain consecutive underscores"
  | endsWithUnderscore => "name should not end with an underscore"

end NameFault

/-- How strictly names are checked. -/
inductive Strictness where
  /-- Reserved words and matters of style only warn. -/
  | minimal
  /-- Reserved words are errors. -/
  | standard
  /-- Matters of style are errors too. -/
  | strict
  deriving DecidableEq, Repr, Inhabited

/-- The rules that a name breaks. -/
structure NameCheck where
  errors : List NameFault
  warnings : List NameFault
  deriving DecidableEq, Repr

namespace NameCheck

/-- Whether no error was found. -/
def isValid (c : NameCheck) : Bool :=
  c.errors.isEmpty

/-- Whether a warning was found. -/
def hasWarnings (c : NameCheck) : Bool :=
  !c.warnings.isEmpty

end NameCheck

/-- A fault, if the condition holds. -/
def NameFault.when (condition : Bool) (fault : NameFault) : List NameFault :=
  if condition then [fault] else []

/-- Whether a character may stand in a plain word. -/
def isPlainChar (c : Char) : Bool :=
  c.isAlphanum || c = '_'

/-- Whether two underscores follow each other. -/
def hasDoubleUnderscore : List Char → Bool
  | '_' :: '_' :: _ => true
  | _ :: rest => hasDoubleUnderscore rest
  | [] => false

/-- The faults of a trimmed name at every level. -/
def basicFaults (name : String) (maxLength : Option Nat) : List NameFault :=
  let cs := name.toList
  let invalid := cs.filter (!isPlainChar ·)
  let tooLong :=
    match maxLength with
    | some max => NameFault.when (max < name.utf8ByteSize) (.tooLong max name.utf8ByteSize)
    | none => []
  tooLong ++ NameFault.when (!invalid.isEmpty) (.invalidCharacters invalid) ++
    NameFault.when (cs.head?.any Char.isDigit) .startsWithDigit ++
    NameFault.when (!cs.any Char.isAlpha) .noLetters

/-- The faults of style of a trimmed name. -/
def styleFaults (name : String) : List NameFault :=
  let cs := name.toList
  NameFault.when (cs.head? == some '_') .startsWithUnderscore ++
    NameFault.when (cs.getLast? == some '_') .endsWithUnderscore ++
    NameFault.when (hasDoubleUnderscore cs) .consecutiveUnderscores

/-- Check a name against all rules. Blanks around it do not count; without a maximal length it may
be as long as it likes. -/
def checkName (name : String) (level : Strictness) (maxLength : Option Nat) : NameCheck :=
  let name := Text.trimmed name
  if name.isEmpty then ⟨[.empty], []⟩
  else
    let reserved := NameFault.when (isReserved name) (.reserved name)
    let style := styleFaults name
    let basic := basicFaults name maxLength
    match level with
    | .minimal => ⟨basic, reserved ++ style⟩
    | .standard => ⟨basic ++ reserved, style⟩
    | .strict => ⟨basic ++ reserved ++ style, []⟩

/-- What a character becomes in a plain word: blanks and hyphens turn into underscores, and what
does not fit falls away. -/
def plainChar? (c : Char) : Option Char :=
  if isPlainChar c then some c.toLower
  else if c = ' ' || c = '-' then some '_'
  else none

/-- A text with one underscore for every run of them. -/
def collapseUnderscores : List Char → List Char
  | '_' :: '_' :: rest => collapseUnderscores ('_' :: rest)
  | c :: rest => c :: collapseUnderscores rest
  | [] => []

/-- A text without the underscores at its ends. -/
def trimUnderscores (cs : List Char) : List Char :=
  ((cs.dropWhile (· == '_')).reverse.dropWhile (· == '_')).reverse

/-- Any text as a plain word; none when no letter is left. -/
def sanitize? (text : String) : Option String :=
  let plain := (Text.trim text.toList).filterMap plainChar?
  let word := trimUnderscores (collapseUnderscores (plain.dropWhile Char.isDigit))
  if word.any Char.isAlpha then some (String.ofList (word.take maxNameLength)) else none

end EntityRelation
