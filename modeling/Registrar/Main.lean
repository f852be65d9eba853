import Registrar.Command.Response

/-!
# The program

Reads the files that the arguments name, lets `respond` decide what to say about them, and prints
it.
-/

namespace Registrar

/-- Why a file could not be read. -/
def FileFault.ofError : IO.Error → FileFault
  | .noFileOrDirectory .. => .notFound
  | .inappropriateType _ code _ => if code = 21 then .isFolder else .notFolder
  | e => .told (toString e)

/-- Reads the text of a file. -/
def readTextFile (path : String) : IO (Except FileFault String) := do
  if '\x00' ∈ path.toList then return .error .nul
  try
    match String.fromUTF8? (← IO.FS.readBinFile path) with
    | some text => return .ok text
    | none => return .error .notText
  catch e => return .error (.ofError e)

end Registrar

open Registrar in
/-- Carries out the command that the arguments give. -/
def main (args : List String) : IO UInt32 := do
  let paths := match Request.parse? args with
    | some (.run c) => c.inputs
    | _ => []
  let texts ← paths.mapM fun path => return (path, ← readTextFile path)
  let response := respond (fun path => (texts.lookup path).getD (.error .notFound)) args
  (← IO.getStdout).putStr response.output
  (← IO.getStderr).putStr response.errors
  return response.status.toUInt32
