import RelevanceSql.Command.Run

/-!
# The program

Reads the files that the arguments and variables name, and prints what the command answers.
-/

namespace RelevanceSql

/-- The cause of a failed read. A directory has code 21, which some calls report with a minus. -/
def ReadFailure.ofError : IO.Error → ReadFailure
  | .noFileOrDirectory .. => .missing
  | .inappropriateType _ code _ => if code = 21 ∨ -code = 21 then .isDirectory else .notADirectory
  | e => .other (toString e)

/-- The bytes of a file, or why there are none. -/
def readFile (path : String) : IO (Except ReadFailure ByteArray) := do
  try
    return .ok (← IO.FS.readBinFile path)
  catch e =>
    return .error (ReadFailure.ofError e)

/-- The names of the variables that the command looks at. -/
def variableNames : List String :=
  ["SEARCHABLE_CONFIG", "SEARCHABLE_MAX_WORDS", "SEARCHABLE_DRIVER"]

/-- The surroundings in which the files with the given paths have been read. -/
def surroundingsWith (paths : List String) : IO Surroundings := do
  let settings ← variableNames.mapM fun name => do return (name, ← IO.getEnv name)
  let files ← paths.mapM fun path => do return (path, ← readFile path)
  return {
    lookupVariable := fun name => (settings.lookup name).join
    readBytes := fun path => (files.lookup path).getD (.error .missing) }

end RelevanceSql

open RelevanceSql RelevanceSql.Command in
/-- Runs the command and prints its answer. -/
def main (args : List String) : IO UInt32 := do
  let unread ← surroundingsWith []
  let paths := match request unread args with
    | .ok r => [r.model] ++ r.config.toList ++ (unread.lookupVariable "SEARCHABLE_CONFIG").toList
    | .error _ => []
  match run (← surroundingsWith paths) args with
  | .shown output =>
    IO.print output
    return 0
  | .explained =>
    IO.print usage
    return 0
  | .failed fault =>
    IO.eprintln ("Error: " ++ fault.message)
    return 1
  | .misused =>
    IO.eprint usage
    return 2
