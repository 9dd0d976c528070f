import MarkupTree.Command.Run

/-!
# The command

Reads the arguments, the standard input and files, and writes the outcome of the run.
-/

namespace MarkupTree.Command

/-- The text of a file of the file system. -/
def readFile (name : String) : IO (Except Failure String) := do
  let path := (Path.ofString name).toString
  if name.toList.contains '\x00' then return .error .nullInPath
  try
    return .ok (← IO.FS.readFile path)
  catch
    | .inappropriateType _ 21 _ => return .error (.isDirectory path)
    | .inappropriateType .. => return .error (.notADirectory path)
    | .invalidArgument _ 36 _ => return .error (.nameTooLong path)
    | .noFileOrDirectory .. => return .error (.fileNotFound path)
    | e => throw e

/-- Writes an outcome, and returns the exit code. -/
def report (outcome : Outcome) : IO UInt32 := do
  (← IO.getStdout).putStr outcome.stdout
  let stderr ← IO.getStderr
  stderr.putStr outcome.stderr
  match outcome.ending with
  | .exit code => return code.toUInt32
  | .failed failure =>
    stderr.putStrLn failure.message
    return 1

end MarkupTree.Command

open MarkupTree.Command in
/-- Runs the command. -/
def main (args : List String) : IO UInt32 := do
  match Invocation.ofArguments args with
  | .error halt => report halt.outcome
  | .ok invocation =>
    let stdin ← if invocation.path = "-" then (← IO.getStdin).readToEnd else pure ""
    let file ← if invocation.path = "-" then pure (.ok "") else readFile invocation.path
    report (run args stdin fun _ => file)
