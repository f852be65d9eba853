import Registrar.Admission

/-!
# Reports

What the program says about files, as values: the claims that a declaration derives, the outcome of
registering a list of files, and the claim that serves a request.
-/

namespace Registrar

/-- An object with its members ordered by key. -/
def Value.sorted : Value → Value
  | .object members => .ofMembers members
  | v => v

/-- A claim as documents give it. -/
def Claim.toValue (c : Claim) : Value := (Shapes.claim (m := Document.Scan)).write c

/-- An owner of a claim. -/
def Owner.toValue (o : Owner) : Value :=
  .ofMembers [("module", .string o.module), ("action", .string o.action)]

/-- A conflict. -/
def Conflict.toValue (c : Conflict) : Value :=
  .ofMembers ([("path_type", .string c.transport.tag), ("path", .string c.path),
    ("key", .string c.key), ("existing", c.existing.toValue), ("incoming", c.incoming.toValue)] ++
    (c.method.map fun method => ("method", Value.string method)).toList)

/-- A file that is not admitted. -/
def Failure.toValue (f : Failure) : Value :=
  .ofMembers ([("file", .string f.path), ("code", .string f.error.code.name),
    ("error", .string f.error.message)] ++
    (f.error.conflicts?.map fun l => ("conflicts", Value.array (l.map Conflict.toValue))).toList)

/-- The claim that serves a request, with its owner first. -/
def Match.toValue (found : Match) : Value :=
  .object [("module", .string found.claim.module), ("action", .string found.claim.action),
    ("claim", found.claim.toValue), ("params", .ofDict (found.params.map .string))]

/-! ## Claims of one declaration -/

/-- The claims that the declaration in a file derives. -/
structure ClaimReport where
  path : String
  module : String
  claims : List Claim
  deriving DecidableEq

/-- The claims as a value. -/
def ClaimReport.toValue (r : ClaimReport) : Value :=
  .ofMembers [("file", .string r.path), ("module", .string r.module),
    ("claims", .array (r.claims.map (·.toValue.sorted)))]

/-! ## Registering files -/

/-- What comes of registering the modules of files: the names that are registered, the number of
their claims, and the files that were not admitted. -/
structure CheckReport where
  registered : List String
  claims : Nat
  failures : List Failure
  deriving DecidableEq, Repr

/-- Registers the modules of files. -/
def Registry.check (r : Registry) (files : List LoadedFile) : CheckReport :=
  let (r, failures) := r.registerFiles files
  ⟨r.names, r.claimCount, failures⟩

/-- The outcome as a value. -/
def CheckReport.toValue (r : CheckReport) : Value :=
  .ofMembers [("registered", .array (r.registered.map .string)),
    ("claims", .number (.ofCount r.claims)),
    ("failures", .array (r.failures.map Failure.toValue))]

end Registrar
