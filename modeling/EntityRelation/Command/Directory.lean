import EntityRelation.Text.Bytes

/-!
# Reading files

A path leads through directories to a file. `Directory` is a directory as data, its files with
their paths, and `Directory.read` says what reading a path in it gives: the text of a file, or the
fault that the walk along the path meets first.
-/

namespace EntityRelation

/-- Why a file cannot be read. -/
inductive ReadFault where
  | missing
  | notADirectory
  | isADirectory
  | nameTooLong
  | other (reason : String)
  deriving DecidableEq, Repr

namespace ReadFault

/-- The wording of a fault. -/
def message : ReadFault → String
  | missing => "No such file or directory (os error 2)"
  | notADirectory => "Not a directory (os error 20)"
  | isADirectory => "Is a directory (os error 21)"
  | nameTooLong => "File name too long (os error 36)"
  | other reason => reason

end ReadFault

/-- The files below a directory, by their paths. -/
structure Directory where
  files : List (String × String)
  deriving DecidableEq, Repr

namespace Directory

/-- A place that a path can lead to: below the directory, by the names that lead there, or
somewhere above it. -/
inductive Place where
  | below (names : List String)
  | above
  deriving DecidableEq, Repr

/-- The names that a path consists of. -/
def names (path : String) : List String :=
  (path.toList.splitOn '/').map String.ofList

/-- The text of the file at a place. -/
def file? (d : Directory) : Place → Option String
  | .below ns => (d.files.find? fun f => names f.1 == ns).map (·.2)
  | .above => none

/-- Whether a place is a directory. Every directory below holds a file somewhere. -/
def isDirectory (d : Directory) : Place → Bool
  | .below ns =>
    ns.isEmpty || d.files.any fun f => ns.isPrefixOf (names f.1) && ns != names f.1
  | .above => true

/-- How many bytes a name may have. -/
def nameLimit : Nat := 255

/-- How many bytes a path may have. -/
def pathLimit : Nat := 4095

/-- The place above a place. -/
def Place.parent : Place → Place
  | below [] | above => above
  | below ns => below ns.dropLast

/-- The place that a name leads to from a directory. -/
def enter (d : Directory) (p : Place) (name : String) : Except ReadFault Place :=
  if nameLimit < Text.byteLength name.toList then .error .nameTooLong
  else
    match p with
    | .above => .error .missing
    | .below ns =>
      let inner := .below (ns ++ [name])
      if d.isDirectory inner || (d.file? inner).isSome then .ok inner else .error .missing

/-- One step along a path. An empty name, as after a final slash, stays in place, but only in a
directory. -/
def step (d : Directory) (p : Place) (name : String) : Except ReadFault Place :=
  if !d.isDirectory p then .error .notADirectory
  else
    match name with
    | "" | "." => .ok p
    | ".." => .ok p.parent
    | _ => d.enter p name

/-- Read the file that a path leads to. -/
def read (d : Directory) (path : String) : Except ReadFault String := do
  if pathLimit < Text.byteLength path.toList then throw .nameTooLong
  let start : Place := if path.toList.head? = some '/' then .above else .below []
  let p ← (names path).foldlM d.step start
  match d.file? p with
  | some text => .ok text
  | none => .error .isADirectory

end Directory

end EntityRelation
