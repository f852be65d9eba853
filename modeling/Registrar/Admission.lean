import Registrar.Document.File
import Registrar.Registry

/-!
# Admission of files

The modules of a list of files are admitted to a registry one after the other.
`Registry.registerFile` takes what came of loading one file, and `Registry.registerFiles` a list of
them: a file either adds its module to the registry or is a `Failure`.
-/

namespace Registrar

/-- What came of loading a file. -/
structure LoadedFile where
  path : String
  result : Except DocumentError Module

/-- Why the module of a file is not admitted. -/
inductive AdmissionError
  /-- No valid declaration comes out of the file. -/
  | document (e : DocumentError)
  /-- The registry refuses the module. -/
  | refusal (e : RegistryError)
  deriving DecidableEq, Repr

namespace AdmissionError

/-- The message about an error. -/
def message : AdmissionError → String
  | document e => e.message
  | refusal e => e.message

/-- The code of an error. -/
def code : AdmissionError → ErrorCode
  | document e => e.code
  | refusal e => e.code

/-- The conflicts of a module that was refused. There are none unless they are why. -/
def conflicts? : AdmissionError → Option (List Conflict)
  | document _ => none
  | refusal e => some (e.conflicts?.getD [])

end AdmissionError

/-- A file whose module is not admitted. -/
structure Failure where
  path : String
  error : AdmissionError
  deriving DecidableEq, Repr

namespace Registry

/-- Admits the module of a file, or says why not. -/
def registerFile (r : Registry) (f : LoadedFile) : Except Failure Registry :=
  match f.result with
  | .error e => .error ⟨f.path, .document e⟩
  | .ok m =>
    match r.register m with
    | .ok (r, _) => .ok r
    | .error e => .error ⟨f.path, .refusal e⟩

/-- Admits the modules of files in order. Where one is not admitted the registry stays as it is. -/
def registerFiles (r : Registry) : List LoadedFile → Registry × List Failure
  | [] => (r, [])
  | f :: fs =>
    match r.registerFile f with
    | .ok r => r.registerFiles fs
    | .error failure =>
      let (r, failures) := r.registerFiles fs
      (r, failure :: failures)

end Registry

end Registrar
