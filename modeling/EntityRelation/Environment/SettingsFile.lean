import EntityRelation.Environment.Basic
import EntityRelation.Environment.Line
import EntityRelation.Text.Letter

/-!
# Settings files

`Environment.load?` supplies an environment with the values of a settings file. A value may be
quoted, and outside single quotes a dollar sign stands before a name whose value takes its place.
The value of a name is looked up in the environment first and then in the lines read so far. The
first line that cannot be read ends the reading; what came before it stays. A value that no
environment can hold makes the whole file useless.
-/

namespace EntityRelation

namespace Environment

/-- Where the reader of a value stands. -/
inductive ValueState where
  | text
  /-- After a backslash. -/
  | escape
  /-- Between single quotes. -/
  | single
  /-- After a dollar sign, with the name read so far. -/
  | name (soFar : List Char)
  /-- After a dollar sign and a brace, with the name read so far. -/
  | braced (soFar : List Char)
  /-- After the blank that ends a value. -/
  | ended
  deriving DecidableEq, Repr

/-- The character that an escaped one stands for. -/
def escaped? (c : Char) : Option Char :=
  if ['\\', '\x27', '"', '$', ' '].contains c then some c
  else if c = 'n' then some '\n'
  else none

/-- The value that a text spells, or nothing if it is malformed. `find` gives the values of names,
and `inQuotes` tells whether the text stands between double quotes. The character that ends a name
belongs to the value, even if it is a quote. -/
def readValue (find : String → String) (inQuotes : Bool) (s : ValueState) :
    List Char → Option (List Char)
  | [] =>
    match s with
    | .single | .braced _ => none
    | .name n => if inQuotes then none else some (find (String.ofList n)).toList
    | _ => if inQuotes then none else some []
  | c :: rest =>
    match s with
    | .ended =>
      if c = ' ' || c = '\t' then readValue find inQuotes .ended rest
      else if c = '#' then some []
      else none
    | .escape => do return (← escaped? c) :: (← readValue find inQuotes .text rest)
    | .single =>
      if c = '\x27' then readValue find inQuotes .text rest
      else (readValue find inQuotes .single rest).map (c :: ·)
    | .name n =>
      let value := (find (String.ofList n)).toList
      if Text.isLetterOrNumeric c then readValue find inQuotes (.name (n ++ [c])) rest
      else if c = '\x7b' && n.isEmpty then readValue find inQuotes (.braced []) rest
      else if c = '$' then (readValue find inQuotes (.name []) rest).map (value ++ ·)
      else (readValue find inQuotes .text rest).map (value ++ c :: ·)
    | .braced n =>
      if c = '\x7d' then
        (readValue find inQuotes .text rest).map ((find (String.ofList n)).toList ++ ·)
      else readValue find inQuotes (.braced (n ++ [c])) rest
    | .text =>
      if c = '$' then readValue find inQuotes (.name []) rest
      else if c = '\\' then readValue find inQuotes .escape rest
      else if c = '"' then readValue find (!inQuotes) .text rest
      else if inQuotes then (readValue find inQuotes .text rest).map (c :: ·)
      else if c = '\x27' then readValue find inQuotes .single rest
      else if c = ' ' || c = '\t' then readValue find inQuotes .ended rest
      else (readValue find inQuotes .text rest).map (c :: ·)

/-- The state of reading a file: the environment as supplied so far, and the last values that the
file has given to names. -/
structure Loading where
  environment : Environment
  given : Environment := {}
  deriving DecidableEq, Repr

namespace Loading

/-- What a line leads to. -/
inductive Step where
  | next (l : Loading)
  /-- The line is malformed. -/
  | stop
  /-- The line gives a value that no environment can hold. -/
  | breakOff
  deriving DecidableEq, Repr

/-- The value that takes the place of a name. -/
def find (l : Loading) (name : String) : String :=
  ((l.environment.get? name).or (l.given.get? name)).getD ""

/-- Read one line. -/
def readLine (l : Loading) (line : List Char) : Step :=
  match LineContent.of line with
  | .nothing => .next l
  | .fault => .stop
  | .entry name text =>
    match readValue l.find false .text text with
    | none => .stop
    | some cs =>
      let value := String.ofList cs
      if (l.environment.get? name).isNone && !canHold value then .breakOff
      else .next ⟨l.environment.supply name value, l.given.assign name value⟩

/-- Read lines up to the first that cannot be read. -/
def readLines (l : Loading) : List (Option (List Char)) → Option Loading
  | [] => some l
  | none :: _ => some l
  | some line :: rest =>
    match l.readLine line with
    | .next l => readLines l rest
    | .stop => some l
    | .breakOff => none

end Loading

/-- The environment supplied with the values of a settings file, if it can hold them. A byte order
mark at the start of the file is not part of it. -/
def load? (e : Environment) (file : String) : Option Environment :=
  let cs :=
    match file.toList with
    | '\uFEFF' :: rest => rest
    | cs => cs
  let lines := logicalLines [] .ordinary (physicalLines cs)
  (Loading.readLines ⟨e, {}⟩ lines).map (·.environment)

/-- The names that a settings file may ask an environment for: every run of letters and digits,
of characters of names, and every text between braces. -/
def namesIn (file : String) : List String :=
  let pieces (isBorder : Char → Bool) : List String :=
    (file.toList.splitOnP isBorder).map String.ofList
  pieces (!Text.isLetterOrNumeric ·) ++ pieces (fun c => !(c.isAlphanum || c = '_' || c = '.')) ++
    pieces fun c => c = '\x7b' || c = '\x7d'

end Environment

end EntityRelation
