import Registrar.Error

/-!
# The registry

A registry admits modules one by one and keeps three indices: the modules by name, the owners of
storage tables, and the claims on every transport by key. `register` refuses a module that would
share a name, a table or an address with another; what it refuses leaves no trace. `unregister`
takes a module out again with everything it owns, and `lookup` resolves a request to the claim that
serves it.
-/

namespace Registrar

open Text

/-! ## Indices -/

/-- A module that was admitted, and what was derived from it. -/
structure Registration where
  module : Module
  plural : String
  table : String
  claims : List Claim
  deriving DecidableEq

/-- The claims of each transport by key. A transport has an index of its own only while it needs
one. -/
structure PathIndex where
  http : Option (Dict Claim) := none
  cli : Option (Dict Claim) := none
  ws : Option (Dict Claim) := none
  webhook : Option (Dict Claim) := none
  grpc : Option (Dict Claim) := none
  deriving DecidableEq

namespace PathIndex

/-- The index of a transport, if it has one. -/
def index? (p : PathIndex) : Transport → Option (Dict Claim)
  | .http => p.http
  | .cli => p.cli
  | .ws => p.ws
  | .webhook => p.webhook
  | .grpc => p.grpc

/-- The claims of a transport. -/
def on (p : PathIndex) (t : Transport) : Dict Claim := (p.index? t).getD ∅

/-- The claims with the index of one transport made, changed or dropped. -/
def alter (p : PathIndex) (f : Option (Dict Claim) → Option (Dict Claim)) : Transport → PathIndex
  | .http => { p with http := f p.http }
  | .cli => { p with cli := f p.cli }
  | .ws => { p with ws := f p.ws }
  | .webhook => { p with webhook := f p.webhook }
  | .grpc => { p with grpc := f p.grpc }

theorem index?_alter (p : PathIndex) (f : Option (Dict Claim) → Option (Dict Claim))
    (t t' : Transport) :
    (p.alter f t).index? t' = if t' = t then f (p.index? t) else p.index? t' := by
  cases t <;> cases t' <;> rfl

/-- The claims with one more, under its key. -/
def insert (p : PathIndex) (c : Claim) : PathIndex :=
  p.alter (fun d => some ((d.getD ∅).insert c.key c)) c.transport

/-- The claims without the one under the claim's key. -/
def erase (p : PathIndex) (c : Claim) : PathIndex :=
  p.alter (fun d => d.map fun d => d.erase c.key) c.transport

/-- The claims without the indices in which none is left. -/
def prune (p : PathIndex) : PathIndex where
  http := p.http.filter fun d => !d.isEmpty
  cli := p.cli.filter fun d => !d.isEmpty
  ws := p.ws.filter fun d => !d.isEmpty
  webhook := p.webhook.filter fun d => !d.isEmpty
  grpc := p.grpc.filter fun d => !d.isEmpty

theorem index?_prune (p : PathIndex) (t : Transport) :
    p.prune.index? t = (p.index? t).filter fun d => !d.isEmpty := by
  cases t <;> rfl

/-- The number of claims on all transports. -/
def size (p : PathIndex) : Nat :=
  (p.on .http).size + (p.on .cli).size + (p.on .ws).size + (p.on .webhook).size + (p.on .grpc).size

end PathIndex

/-- The admitted modules, the owners of tables, and the claims. -/
structure Registry where
  config : Config := {}
  modules : Dict Registration := ∅
  tables : Dict String := ∅
  paths : PathIndex := {}
  deriving DecidableEq

/-! ## Claims of one module -/

/-- The conflict of a claim with the owner of its address. -/
def Claim.conflict (c : Claim) (existing : Owner) : Conflict :=
  ⟨c.transport, c.method, c.path, c.key, existing, c.owner⟩

/-- Goes through claims in order, given those that are kept already, latest first: a claim with a
new key is kept; one that repeats a key is dropped, and reported if its action is not that of the
first claim with the key. -/
def distinctFrom (kept : List Claim) : List Claim → List Claim × List Conflict
  | [] => ([], [])
  | c :: cs =>
    match kept.find? (·.key = c.key) with
    | none =>
      let (claims, conflicts) := distinctFrom (c :: kept) cs
      (c :: claims, conflicts)
    | some first =>
      let (claims, conflicts) := distinctFrom kept cs
      (claims, if first.action = c.action then conflicts else c.conflict first.owner :: conflicts)

/-- The first claim of each key, and the later ones that have another action. -/
def distinctClaims (claims : List Claim) : List Claim × List Conflict := distinctFrom [] claims

namespace Registry

/-- An empty registry with a configuration that admits something. -/
def withConfig (config : Config) : Except RegistryError Registry :=
  match config.problem? with
  | some p => .error (.configuration p)
  | none => .ok { config }

/-! ## Registering -/

/-- The conflicts of claims with those that the registry holds. -/
def conflicts (r : Registry) (claims : List Claim) : List Conflict :=
  claims.filterMap fun c => ((r.paths.on c.transport).get? c.key).map fun e => c.conflict e.owner

/-- Admits a module with its distinct claims. -/
def enroll (r : Registry) (e : Registration) : Registry :=
  { r with
    modules := r.modules.insert e.module.name e
    tables := r.tables.insert e.table e.module.name
    paths := e.claims.foldl PathIndex.insert r.paths }

/-- What a module would be registered as, and the conflicts among its own claims. -/
def propose (r : Registry) (m : Module) : Registration × List Conflict :=
  let (claims, conflicts) := distinctClaims (m.claims r.config.endpoints m.plural)
  (⟨m, m.plural, m.table, claims⟩, conflicts)

/-- Admits a module, or says why not. -/
def register (r : Registry) (m : Module) : Except RegistryError (Registry × Registration) :=
  let (e, own) := r.propose m
  if m.isCapability then .error (.capability m.displayName)
  else if r.modules.contains m.name then .error (.duplicate m.name)
  else match m.report? with
    | some report => .error (.invalid report)
    | none =>
      if r.config.maxModules ≤ r.modules.size then
        .error (.limit (.modules r.config.maxModules))
      else if r.config.maxClaims < e.claims.length then
        .error (.limit (.claims m.name e.claims.length r.config.maxClaims))
      else match r.tables.get? e.table with
        | some owner => .error (.tableTaken m.name e.table owner)
        | none =>
          match own ++ r.conflicts e.claims with
          | [] => .ok (r.enroll e, e)
          | conflicts => .error (.pathsTaken m.name conflicts)

/-- Takes out the module that is registered under a name, with its table and its claims. -/
def release (r : Registry) (name : String) (e : Registration) : Registry :=
  { r with
    modules := r.modules.erase name
    tables := r.tables.erase e.table
    paths := (e.claims.foldl PathIndex.erase r.paths).prune }

/-- Takes a module out with all it owns, or says that there is none. -/
def unregister (r : Registry) (name : String) : Except RegistryError (Registry × Registration) :=
  match r.modules.get? name with
  | none => .error (.notRegistered name)
  | some e => .ok (r.release name e, e)

/-! ## Resolving requests -/

/-- A claim that matches a request, with what its parameters capture. -/
def candidate? (method path : String) (c : Claim) : Option Match :=
  if c.transport.usesMethod && c.method ≠ some method then none
  else (c.captures? path).map fun params => ⟨c, params⟩

/-- Whether the first match goes before the second: it has more literal segments, or as many and the
higher priority. -/
def outranks (a b : Match) : Bool :=
  b.claim.literals < a.claim.literals ||
    (a.claim.literals == b.claim.literals &&
      b.claim.priority.getD 0 < a.claim.priority.getD 0)

/-- The first of the best of the matches. -/
def best : List Match → Option Match
  | [] => none
  | m :: ms => some (ms.foldl (fun b m => if outranks m b then m else b) m)

/-- The claim that serves a request: the one with the very address, or else the most specific of
those that match, then the one of highest priority, then the one with the least key. -/
def lookup (r : Registry) (t : Transport) (method path : String) : Option Match :=
  let path := Path.normalize path
  let method := toUpper (trim method)
  let claims := r.paths.on t
  match claims.get? (t.key (some method) path) with
  | some c => some ⟨c, (c.captures? path).getD ∅⟩
  | none => best (claims.values.filterMap (candidate? method path))

/-! ## Queries -/

/-- The registration of a module. -/
def get? (r : Registry) (name : String) : Option Registration := r.modules.get? name

/-- Whether a module is registered. -/
def contains (r : Registry) (name : String) : Bool := r.modules.contains name

/-- The names of the modules in order. -/
def names (r : Registry) : List String := r.modules.keys

/-- The registrations in the order of their names. -/
def all (r : Registry) : List Registration := r.modules.values

/-- The number of modules. -/
def size (r : Registry) : Nat := r.modules.size

/-- Whether there is no module. -/
def isEmpty (r : Registry) : Bool := r.modules.isEmpty

/-- The number of claims. -/
def claimCount (r : Registry) : Nat := r.paths.size

/-- The module that owns a table. -/
def tableOwner? (r : Registry) (table : String) : Option String := r.tables.get? table

/-- The claims of a transport in the order of their keys. -/
def claims (r : Registry) (t : Transport) : List Claim := (r.paths.on t).values

/-- Whether a method is not greater than another; to have none is least. -/
def methodLe : Option String → Option String → Bool
  | none, _ => true
  | some _, none => false
  | some a, some b => a ≤ b

/-- Whether a claim is not listed after another: by path, then by method. -/
def routeLe (a b : Claim) : Bool :=
  a.path < b.path || (a.path == b.path && methodLe a.method b.method)

/-- The HTTP claims by path and then method. -/
def httpPaths (r : Registry) : List Claim := (r.claims .http).mergeSort routeLe

/-- The claims of the command line by path. -/
def cliPaths (r : Registry) : List Claim := (r.claims .cli).mergeSort fun a b => a.path ≤ b.path

end Registry

end Registrar
