import SemanticLayer.Command.Run

/-!
# The program

The thin layer between the program and its real surroundings: it reads variables and files, writes
the output, and sets the exit code.
-/

namespace SemanticLayer.Command

/-- The reason that an error of reading gives, and whether there was something to read. -/
def readingFailure : IO.Error → FileContent
  | .noFileOrDirectory .. => .unreadable false "No such file or directory (os error 2)"
  | .inappropriateType _ code _ =>
    if code = 20 then .unreadable false "Not a directory (os error 20)"
    else .unreadable true "Is a directory (os error 21)"
  | .permissionDenied .. => .unreadable true "Permission denied (os error 13)"
  | error => .unreadable true (toString error)

/-- The real surroundings of the program. -/
def realSurroundings : Surroundings IO where
  getVariable name := IO.getEnv name
  file path := do
    try
      return .text (← IO.FS.readFile path)
    catch error =>
      return readingFailure error
  userDirectory? := do
    match ← IO.getEnv "XDG_CONFIG_HOME" with
    | some directory => if directory.startsWith "/" then return some directory
    | none => pure ()
    return (← IO.getEnv "HOME").map (· ++ "/.config")

end SemanticLayer.Command

open SemanticLayer.Command in
/-- Runs the program and reports how it ended. -/
def main (arguments : List String) : IO UInt32 := do
  let outcome ← run realSurroundings arguments
  IO.print outcome.output
  IO.eprint outcome.report
  return outcome.exitCode
