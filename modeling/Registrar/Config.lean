import Registrar.Derivation

/-!
# Configuration

The limits of a registry, and how it treats explicit endpoints.
-/

namespace Registrar

/-- The limits of a registry and its mode of endpoints. -/
structure Config where
  maxModules : Nat := 1000
  maxClaims : Nat := 500
  endpoints : EndpointMode := .additive
  deriving DecidableEq, Repr

/-- What is wrong with a configuration. -/
inductive ConfigProblem
  | noModules
  | noClaims
  /-- A problem that is told in its own words. -/
  | told (text : String)
  deriving DecidableEq, Repr

/-- The message about a problem of the configuration. -/
def ConfigProblem.message : ConfigProblem → String
  | noModules => "max_modules must be greater than 0"
  | noClaims => "max_claims_per_module must be greater than 0"
  | told text => text

namespace Config

/-- Tight limits. -/
def strict : Config := { maxModules := 100, maxClaims := 64 }

/-- Generous limits, and endpoints that replace implicit routes. -/
def permissive : Config :=
  { maxModules := 100000, maxClaims := 10000, endpoints := .replaceImplicit }

/-- The first problem of the configuration: a limit that admits nothing. -/
def problem? (c : Config) : Option ConfigProblem :=
  if c.maxModules = 0 then some .noModules
  else if c.maxClaims = 0 then some .noClaims
  else none

end Config

namespace Shapes

open Document Document.Codec

variable {m : Type → Type} [Form m]

/-- How a mode of endpoints is named in a document. -/
def modeWords : Words EndpointMode :=
  ⟨[EndpointMode.additive, .replaceImplicit].map fun e => (e.tag, e), 2⟩

/-- The members of a configuration. -/
def config : Shape m Config where
  title := "RegistryConfig"
  start := {}
  slots := [
    always "max_modules" natural (·.maxModules) fun c x => { c with maxModules := x },
    always "max_claims_per_module" natural (·.maxClaims) fun c x => { c with maxClaims := x },
    always "explicit_endpoints" (word modeWords (·.tag)) (·.endpoints)
      fun c x => { c with endpoints := x }]

end Shapes

end Registrar
