import Registrar.Document.Shape
import Registrar.Path
import Registrar.Schema.Tag

/-!
# Claims

A claim is an address that a module occupies on a transport: over HTTP a method and a path,
elsewhere a path alone. Its `key` tells claims apart. A segment `{name}` of its path stands for any
segment of a request, which it captures; `Claim.captures?` matches a request segment by segment.
-/

namespace Registrar

open Text

/-! ## Addresses -/

namespace Transport

/-- The key of an address whose path is normalized. -/
def key (t : Transport) (method : Option String) (path : String) : String :=
  match t with
  | http =>
    let method := (method.map toUpper).getD ""
    s!"http:{method}:{path}"
  | _ => s!"{t.tag}:{path}"

/-- The parts of a normalized path that matching compares: words of a command, segments between
slashes elsewhere. -/
def segments (t : Transport) (path : String) : List String :=
  match t with
  | cli => words path
  | _ => ((path.toList.splitOn '/').filter (· ≠ [])).map String.ofList

end Transport

/-- The module and the action that an address belongs to. -/
structure Owner where
  module : String
  action : String
  deriving DecidableEq, Repr

/-- The text of an owner. -/
def Owner.text (o : Owner) : String := s!"{o.module}:{o.action}"

/-- An address that an action of a module occupies. -/
structure Claim where
  transport : Transport
  path : String
  method : Option String := none
  module : String
  action : String
  /-- Decides between equally specific claims. -/
  priority : Option Int := none
  deriving DecidableEq, Repr

namespace Claim

/-- The claim of an address without a method, its path normalized. -/
def plain (t : Transport) (path module action : String) : Claim :=
  { transport := t, path := Path.normalize path, module, action }

/-- The claim of an HTTP address: the method in upper case, the path normalized. -/
def http (method path module action : String) : Claim :=
  { transport := .http, path := Path.normalize path, method := some (toUpper (trim method)),
    module, action }

/-- The key that tells the claim apart. -/
def key (c : Claim) : String := c.transport.key c.method c.path

/-- Whose claim it is. -/
def owner (c : Claim) : Owner := ⟨c.module, c.action⟩

/-- The parts of the claim's path. -/
def segments (c : Claim) : List String := c.transport.segments c.path

/-- The number of segments that are no parameters. -/
def literals (c : Claim) : Nat := (c.segments.filter fun s => (Path.paramName s).isNone).length

/-- The literals of a claim are the segments that are no name in braces. -/
theorem literals_eq_countP (c : Claim) :
    c.literals = c.segments.countP fun s => ¬ Path.IsParam s := by
  rw [literals, List.countP_eq_length_filter]
  refine congrArg List.length (List.filter_congr fun s _ => ?_)
  rw [Bool.eq_iff_iff, decide_eq_true_eq, ← Path.isSome_paramName_iff]
  cases Path.paramName s <;> simp

/-- Matches segments with those of a request, and adds what the parameters capture. -/
def capture : List String → List String → Dict String → Option (Dict String)
  | [], [], found => some found
  | s :: ss, r :: rs, found =>
    match Path.paramName s with
    | some name => capture ss rs (found.insert name r)
    | none => if s = r then capture ss rs found else none
  | _, _, _ => none

/-- What the parameters capture from a normalized request path, if the claim matches it. -/
def captures? (c : Claim) (request : String) : Option (Dict String) :=
  capture c.segments (c.transport.segments request) ∅

/-- The address of a claim as a message gives it. -/
def addressText (transport : Transport) (method : Option String) (path : String) : String :=
  match method with
  | some method => s!"{transport.tag} {method} {path}"
  | none => s!"{transport.tag} {path}"

/-- The text of a claim. -/
def text (c : Claim) : String :=
  s!"{addressText c.transport c.method c.path} -> {c.owner.text}"

end Claim

/-! ## Resolved requests -/

/-- The claim that a request resolves to, with what its parameters captured. -/
structure Match where
  claim : Claim
  params : Dict String
  deriving DecidableEq

/-! ## Shapes -/

namespace Shapes

open Document Document.Codec

variable {m : Type → Type} [Form m]

/-- How a transport is named in a document. -/
def transportWords : Words Transport :=
  ⟨Transport.all.map (fun t => (t.tag, t)) ++ [("websocket", .ws)], 5⟩

/-- The members of a claim. -/
def claim : Shape m Claim where
  title := "PathClaim"
  start := { transport := .http, path := "", module := "", action := "" }
  slots := [
    required "path_type" (word transportWords (·.tag)) (·.transport)
      fun c x => { c with transport := x },
    required "path" text (·.path) fun c x => { c with path := x },
    optional "method" text (·.method) fun c x => { c with method := x },
    required "module" text (·.module) fun c x => { c with module := x },
    required "action" text (·.action) fun c x => { c with action := x },
    optional "priority" rank (·.priority) fun c x => { c with priority := x }]

end Shapes

end Registrar
