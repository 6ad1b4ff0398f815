import EntityRelation.Command.Run

/-!
# The program

Reads files from the disk and values from the environment, and leaves the rest to the command.
-/

namespace EntityRelation

/-- The fault that the number of a system error stands for, which may come with either sign. -/
def ReadFault.ofNumber (number : UInt32) (reason : String) : ReadFault :=
  match min number (-number) with
  | 20 => .notADirectory
  | 21 => .isADirectory
  | 36 => .nameTooLong
  | n => .other (reason ++ " (os error " ++ toString n ++ ")")

/-- The fault that an error of the system stands for. -/
def ReadFault.ofError : IO.Error → ReadFault
  | .noFileOrDirectory .. => .missing
  | .inappropriateType _ number reason | .invalidArgument _ number reason
  | .permissionDenied _ number reason | .otherError number reason => .ofNumber number reason
  | e => .other (toString e)

/-- The text of a file, or the reason why it cannot be read. -/
def readText (file : String) : IO (Except ReadFault String) := do
  try
    return .ok (← IO.FS.readFile file)
  catch e =>
    return .error (.ofError e)

/-- The part of the environment that matters: the settings, and what the settings file asks for. -/
def readEnvironment : IO Environment := do
  let asked :=
    match ← readText Command.settingsFile with
    | .ok text => Environment.namesIn text
    | .error _ => []
  let names := Config.dialectKey :: Config.historyLimitKey :: Config.includePositionsKey :: asked
  names.foldlM (fun e name => return (← IO.getEnv name).elim e (e.supply name)) {}

end EntityRelation

open EntityRelation in
/-- Run the program. -/
def main (arguments : List String) : IO UInt32 := do
  let result ← Command.execute readText (← readEnvironment) arguments
  IO.print result.output
  if let some text := result.errorOutput then
    IO.eprint text
  return UInt32.ofNat result.exitCode
