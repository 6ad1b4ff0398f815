import EntityRelation.Dialect.Basic

/-!
# Commands and their arguments

There are four commands. Each takes one file, and some take a dialect or flags. A dialect follows
its option as the next argument or in the same one. No option may be repeated, and after two
hyphens alone every argument is a file. Arguments that do not fit give no command.
-/

namespace EntityRelation

/-- What the program is asked to do. -/
inductive Command where
  /-- Write the script of a file for another dialect. -/
  | convert (file : String) (dialect : Option Dialect) (positions drops dependencyOrder : Bool)
  /-- Report everything that is wrong with a file. -/
  | check (file : String) (dialect : Option Dialect)
  /-- Write the diagram of a file as JSON. -/
  | graph (file : String)
  /-- Arrange the tables of a file and write its script with their positions. -/
  | layout (file : String) (dialect : Option Dialect) (force : Bool)
  deriving DecidableEq, Repr

namespace Command

/-- The file that a command is about. -/
def file : Command → String
  | convert file .. | check file _ | graph file | layout file .. => file

/-- What a command understands besides its file. -/
structure Form where
  takesDialect : Bool
  flags : List String
  deriving DecidableEq, Repr

/-- What has been read of the arguments. -/
structure Arguments where
  file : Option String := none
  dialect : Option Dialect := none
  flags : List String := []
  deriving DecidableEq, Repr

namespace Arguments

/-- The arguments with a file, if there was none and its name is not empty. -/
def withFile (a : Arguments) (name : String) : Option Arguments :=
  if a.file.isNone && !name.isEmpty then some { a with file := some name } else none

/-- The arguments with a dialect, if the command takes one, there was none, and the name stands
for one. -/
def withDialect (a : Arguments) (form : Form) (name : String) : Option Arguments :=
  if form.takesDialect && a.dialect.isNone then
    (Dialect.parse name).toOption.map fun d => { a with dialect := some d }
  else none

/-- The arguments with a flag, if the command knows it and it was not there. -/
def withFlag (a : Arguments) (form : Form) (flag : String) : Option Arguments :=
  if form.flags.contains flag && !a.flags.contains flag then
    some { a with flags := flag :: a.flags }
  else none

/-- Whether the flag is there. -/
def has (a : Arguments) (flag : String) : Bool :=
  a.flags.contains flag

end Arguments

/-- An argument by its form. -/
inductive Argument where
  | file (name : String)
  | flag (name : String)
  /-- The option for the dialect, with its value if that is attached. -/
  | dialect (value : Option String)
  /-- The mark after which every argument is a file. -/
  | filesOnly
  | unknown
  deriving DecidableEq, Repr

/-- Whether an argument looks like an option. -/
def looksLikeOption (arg : String) : Bool :=
  match arg.toList with
  | '-' :: _ :: _ => true
  | _ => false

/-- The form of an argument. -/
def Argument.of (arg : String) : Argument :=
  match arg.toList with
  | ['-', '-'] => filesOnly
  | '-' :: '-' :: long =>
    let name := long.takeWhile (· != '=')
    match long.dropWhile (· != '=') with
    | [] => if name = "dialect".toList then dialect none else flag (String.ofList name)
    | _ :: value => if name = "dialect".toList then dialect (String.ofList value) else unknown
  | ['-', 'd'] => dialect none
  | '-' :: 'd' :: '=' :: value => dialect (String.ofList value)
  | '-' :: 'd' :: value => dialect (String.ofList value)
  | '-' :: _ :: _ => unknown
  | _ => file arg

/-- Read arguments one after the other. -/
def readArguments (form : Form) (a : Arguments) : List String → Option Arguments
  | [] => some a
  | arg :: rest =>
    match Argument.of arg with
    | .file name => (a.withFile name).bind fun a => readArguments form a rest
    | .flag name => (a.withFlag form name).bind fun a => readArguments form a rest
    | .dialect (some name) => (a.withDialect form name).bind fun a => readArguments form a rest
    | .dialect none =>
      match rest with
      | [] => none
      | name :: rest =>
        if looksLikeOption name then none
        else (a.withDialect form name).bind fun a => readArguments form a rest
    | .filesOnly => rest.foldlM Arguments.withFile a
    | .unknown => none

/-- The command that arguments ask for. -/
def ofArguments : List String → Option Command
  | "convert" :: rest => do
    let a ← readArguments ⟨true, ["positions", "drops", "dependency-order"]⟩ {} rest
    return convert (← a.file) a.dialect (a.has "positions") (a.has "drops")
      (a.has "dependency-order")
  | "check" :: rest => do
    let a ← readArguments ⟨true, []⟩ {} rest
    return check (← a.file) a.dialect
  | "graph" :: rest => do
    let a ← readArguments ⟨false, []⟩ {} rest
    return graph (← a.file)
  | "layout" :: rest => do
    let a ← readArguments ⟨true, ["force"]⟩ {} rest
    return layout (← a.file) a.dialect (a.has "force")
  | _ => none

end Command

end EntityRelation
