/-
Module: CardCodex.Main
Purpose: The program: it reads the file that a command names and prints what the
  command line asks for.
Main exports: main
-/
import CardCodex.Command.Outcome

namespace CardCodex

/-- What is found at a path of the file system. -/
def readPath (path : String) : IO FileContent := do
  try
    let bytes ← IO.FS.readBinFile path
    return .ok bytes
  catch
    | .noFileOrDirectory .. => return .error .missing
    | .inappropriateType _ 21 _ => return .error .directory
    | .inappropriateType .. => return .error .notADirectory
    | .permissionDenied .. => return .error .denied
    | error => return .error (.other (toString error))

end CardCodex

/-- Runs the command line. -/
def main (arguments : List String) : IO UInt32 := do
  let content : CardCodex.FileContent ←
    match CardCodex.Command.ofArguments arguments with
    | .ok (.check path) => CardCodex.readPath path
    | _ => pure (.error .missing)
  let outcome := CardCodex.runCommandLine (fun _ => content) arguments
  (← IO.getStdout).putStr outcome.stdout
  (← IO.getStderr).putStr outcome.stderr
  return outcome.status
