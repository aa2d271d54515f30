import Chartboard.Command.Run

/-!
# The program

Reads the files of a command, carries it out and prints its outcome.
-/

namespace Chartboard

/-- The number of a system error. Some calls give it with the opposite sign. -/
def errorNumber (code : UInt32) : UInt32 :=
  if code < 0x80000000 then code else 0 - code

/-- Why the system does not give a file. -/
def FileError.ofSystem : IO.Error → FileError
  | .noFileOrDirectory _ _ _ => .notFound
  | .inappropriateType _ code _ => if errorNumber code = 21 then .isDirectory else .notDirectory
  | .permissionDenied _ _ _ => .denied
  | .invalidArgument file code details =>
    if errorNumber code = 36 then .nameTooLong
    else .system (toString (IO.Error.invalidArgument file code details))
  | error => .system (toString error)

/-- The content of a file on the system. -/
def readFile (path : String) : IO (Except FileError (List UInt8)) := do
  try
    let bytes ← IO.FS.readBinFile path
    pure (.ok bytes.toList)
  catch error => pure (.error (.ofSystem error))

/-- The contents of the files that a command line is about. -/
def readFiles (arguments : List String) : IO Files := do
  let paths := match Invocation.ofArguments false arguments with
    | .ok invocation => invocation.command.paths
    | .error _ => []
  let contents ← paths.mapM fun path => do pure (path, ← readFile path)
  pure fun path => (contents.lookup path).getD (.error .notFound)

end Chartboard

open Chartboard in
/-- Runs the program. -/
def main (arguments : List String) : IO UInt32 := do
  let outcome := runArguments (← readFiles arguments) arguments
  (← IO.getStdout).putStr outcome.output
  (← IO.getStderr).putStr outcome.errors
  pure outcome.code
