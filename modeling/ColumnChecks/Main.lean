import ColumnChecks.CommandLine.Run

/-!
# The program

Reads the files that the command line names, runs it, and writes its outcome.
-/

open ColumnChecks.CommandLine

/-- What a path leads to on this machine. -/
def lookUp (path : String) : IO FileState := do
  try
    let content ← IO.FS.readFile path
    return .text content
  catch
    | .noFileOrDirectory .. => return .absent
    | _ => return .unreadable

/-- The paths that a command line may read. -/
def pathsOf (arguments : List String) : List String :=
  match readArguments arguments with
  | .ok (.run invocation) =>
    invocation.config :: (match invocation.command with
      | .plan rules present _ => rules :: present.toList
      | .apply _ rules _ _ _ | .check rules _ _ => [rules]
      | .schema => [])
  | _ => []

def main (arguments : List String) : IO UInt32 := do
  let found ← (pathsOf arguments).mapM fun path => do return (path, ← lookUp path)
  let files := fun path =>
    ((found.find? fun entry => entry.1 == path).map (·.2)).getD .absent
  let outcome := run files arguments
  (← IO.getStdout).putStr outcome.output
  (← IO.getStderr).putStr outcome.errors
  return outcome.code.toUInt32
