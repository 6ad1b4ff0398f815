import EntityRelation.Text.CaseTable

/-!
# Upper and lower case

Two notions of case live side by side. Names of tables and columns are compared by ASCII case
alone (`sameName`), while reserved words are found by the full Unicode upper case (`toUpper`) and
the validator folds names to the full Unicode lower case (`toLower`). Full mappings may change the
length of a text, and a capital sigma at the end of a word has a lower case of its own.
-/

namespace EntityRelation

namespace Text

/-- A text with its ASCII letters in lower case, as characters. -/
def foldAscii (s : String) : List Char :=
  s.toList.map Char.toLower

/-- Whether two names are the same up to ASCII case. -/
def sameName (a b : String) : Bool :=
  foldAscii a == foldAscii b

/-- A text with its ASCII letters in upper case. -/
def asciiUpper (s : String) : String :=
  String.ofList (s.toList.map Char.toUpper)

/-- A text with its ASCII letters in lower case. -/
def asciiLower (s : String) : String :=
  String.ofList (foldAscii s)

/-- The image of a character beyond ASCII under a case mapping. -/
def mapCase (runs : List CaseRun) (expansions : List (Nat × List Nat)) (c : Char) : List Char :=
  match expansions.lookup c.toNat with
  | some codes => codes.map Char.ofNat
  | none =>
    match runs.findSome? (·.image? c.toNat) with
    | some code => [Char.ofNat code]
    | none => [c]

/-- The full upper case of a character. -/
def upperChar (c : Char) : List Char :=
  if c.toNat < 0x80 then [c.toUpper] else mapCase upperRuns upperExpansions c

/-- The lower case of a character that does not hang on its neighbours. -/
def lowerChar (c : Char) : List Char :=
  if c.toNat < 0x80 then [c.toLower] else mapCase lowerRuns lowerExpansions c

/-- The full upper case of a text. -/
def toUpper (cs : List Char) : List Char :=
  cs.flatMap upperChar

/-- Whether a character has case, or is a case form of another. -/
def isCased (c : Char) : Bool :=
  c.isAlpha || (0x80 ≤ c.toNat && casedRanges.contains c.toNat)

/-- Whether a character is passed over when the context of a sigma is read. -/
def isCaseIgnorable (c : Char) : Bool :=
  ['\x27', '.', ':', '^', '\x60'].contains c ||
    (0x80 ≤ c.toNat && caseIgnorableRanges.contains c.toNat)

/-- Whether the first character that counts for case is cased. -/
def meetsCased (cs : List Char) : Bool :=
  match cs.dropWhile isCaseIgnorable with
  | c :: _ => isCased c
  | [] => false

/-- The lower case of a text whose preceding characters are `before`, nearest first. A capital
sigma that ends a word becomes `ς`, any other `σ`. -/
def lowerAfter (before : List Char) : List Char → List Char
  | [] => []
  | c :: rest =>
    (if c = 'Σ' then
      if meetsCased before && !meetsCased rest then ['ς'] else ['σ']
    else
      lowerChar c) ++ lowerAfter (c :: before) rest

/-- The full lower case of a text. -/
def toLower (cs : List Char) : List Char :=
  lowerAfter [] cs

end Text

end EntityRelation
