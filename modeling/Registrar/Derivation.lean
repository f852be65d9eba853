import Registrar.Claim
import Registrar.Schema.Module

/-!
# Derivation of claims

The claims a module makes follow from its declaration and its plural alone: channel by channel, in
the order HTTP, command line, web socket, web hook, gRPC. `EndpointMode` says whether explicit HTTP
endpoints are claimed beside the implicit routes or in their place.
-/

namespace Registrar

open Text

/-- How explicit HTTP endpoints go with the implicit routes. -/
inductive EndpointMode
  /-- They are claimed after the implicit routes. -/
  | additive
  /-- Where there are any, they are the only HTTP claims. -/
  | replaceImplicit
  deriving DecidableEq, Repr

/-- The spelling in documents. -/
def EndpointMode.tag : EndpointMode → String
  | additive => "additive"
  | replaceImplicit => "replace_implicit"

/-- The mode with this spelling. -/
def EndpointMode.ofName? (s : String) : Option EndpointMode :=
  [additive, replaceImplicit].find? (·.tag = s)

namespace Module

/-! ## HTTP -/

/-- The base path of the implicit routes. -/
def httpBase (m : Module) (plural : String) : String :=
  match m.channels.http.basePath with
  | some base => Path.normalize base
  | none => "/" ++ plural

/-- The implicit routes: five on the collection and its items, one for each further action. -/
def implicitRoutes (m : Module) (plural : String) : List Claim :=
  let base := m.httpBase plural
  let item := Path.join base "\x7bid\x7d"
  [.http "GET" base m.name "list", .http "POST" base m.name "create",
    .http "GET" item m.name "get", .http "PATCH" item m.name "update",
    .http "DELETE" item m.name "delete"] ++
  m.actions.keys.map fun action => .http "POST" (Path.join item action) m.name action

/-- The explicit endpoints. -/
def explicitRoutes (m : Module) : List Claim :=
  m.channels.http.endpoints.map fun e => .http e.method e.path m.name e.action

/-- Whether the explicit endpoints stand in the place of the implicit routes. -/
def replacesImplicit (m : Module) (mode : EndpointMode) : Bool :=
  mode = .replaceImplicit && !m.channels.http.endpoints.isEmpty

/-- The HTTP claims. -/
def httpClaims (m : Module) (mode : EndpointMode) (plural : String) : List Claim :=
  (if m.replacesImplicit mode then [] else m.implicitRoutes plural) ++ m.explicitRoutes

/-! ## Other channels -/

/-- The claims of the command line: a command and the name of each action. -/
def cliClaims (m : Module) (plural : String) : List Claim :=
  let command := (nonBlank? m.channels.cli.command).getD plural
  m.actionNames.map fun action => .plain .cli s!"{command} {action}" m.name action

/-- The claim of the web socket. -/
def socketClaim (m : Module) (plural : String) : Claim :=
  .plain .ws (m.channels.websocket.path.getD ("/ws/" ++ plural)) m.name "subscribe"

/-- The claim of the web hook. -/
def webhookClaim (m : Module) : Claim :=
  .plain .webhook (m.channels.webhook.path.getD ("/webhooks/" ++ m.name)) m.name "receive"

/-- The gRPC service with its package. -/
def grpcService (m : Module) : String :=
  let service := m.channels.grpc.service.getD (Naming.toPascal m.name ++ "Service")
  match nonBlank? m.channels.grpc.package with
  | some package => s!"{package}.{service}"
  | none => service

/-- The claims of gRPC: a method of the service for each action. -/
def grpcClaims (m : Module) : List Claim :=
  m.actionNames.map fun action =>
    .plain .grpc s!"/{m.grpcService}/{Naming.toPascal action}" m.name action

/-! ## All channels -/

/-- The claims of the module under a plural. -/
def claims (m : Module) (mode : EndpointMode) (plural : String) : List Claim :=
  (if m.channels.http.enabled then m.httpClaims mode plural else []) ++
  (if m.channels.cli.enabled then m.cliClaims plural else []) ++
  (if m.channels.websocket.enabled then [m.socketClaim plural] else []) ++
  (if m.channels.webhook.enabled then [m.webhookClaim] else []) ++
  (if m.channels.grpc.enabled then m.grpcClaims else [])

end Module

end Registrar
