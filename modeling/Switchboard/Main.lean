import Switchboard.CommandLine

/-!
# The program
-/

set_option autoImplicit false

open Switchboard

/-- What is found under a path. -/
def findFile (path : String) : IO File := do
  match ← (IO.FS.readBinFile path).toBaseIO with
  | .ok content => return .bytes content.data.toList
  | .error (.noFileOrDirectory ..) => return .absent .missing
  | .error (.permissionDenied ..) => return .absent .denied
  | .error (.inappropriateType _ 20 _) => return .absent .notDirectory
  | .error (.invalidArgument _ 36 _) => return .absent .tooLong
  | .error _ => return .unreadable

/-- Does what the arguments ask for. -/
def main (arguments : List String) : IO UInt32 := do
  let request := CommandLine.Request.ofArguments arguments
  let file ← match request.path? with
    | some path => findFile path
    | none => pure .unreadable
  let outcome := request.perform fun _ => file
  IO.print outcome.stdout
  IO.eprint outcome.stderr
  return outcome.code
