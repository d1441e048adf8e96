import DocumentMapping.CommandLine.Run

/-!
# The executable

Connects the program with its files, its standard streams and its exit code.
-/

open DocumentMapping.CommandLine

/-- The reason why a file cannot be read. -/
def fileProblem (error : IO.Error) : String :=
  match error with
  | .noFileOrDirectory .. => "No such file or directory (os error 2)"
  | .permissionDenied .. => "Permission denied (os error 13)"
  | other => toString other

/-- The files and the standard input of the process. -/
def processSurroundings : Surroundings IO where
  file name := do
    try
      return .ok (← IO.FS.readFile name)
    catch error => return .error (fileProblem error)
  input := do (← IO.getStdin).readToEnd

/-- The text for arguments that do not follow the usage. -/
def usageText : String :=
  "usage: map | read | parse, followed by options and a path\n"

/-- Runs the program on the arguments of the process. -/
def main (list : List String) : IO UInt32 := do
  let answer ← run processSurroundings list
  IO.print answer.output
  if answer = usageError then IO.eprint usageText else IO.eprint answer.errors
  return answer.exitCode.toUInt32
