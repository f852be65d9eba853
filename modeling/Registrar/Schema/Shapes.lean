import Registrar.Document.Shape
import Registrar.Schema.Module

/-!
# Shapes of declarations

How a module declaration and its parts are written in a document: the members of each record, in
order, with their names, their aliases and what happens where one is missing.
-/

namespace Registrar.Shapes

open Document Document.Codec

variable {m : Type → Type} [Form m]

/-! ## Fields -/

/-- The members of a constraint. -/
def constraint : Shape m Constraint where
  title := "Constraint"
  start := { type := "" }
  slots := [
    required "type" text (·.type) fun c x => { c with type := x },
    always "value" value (·.value) fun c x => { c with value := x },
    optional "message" text (·.message) fun c x => { c with message := x }]

/-- The members of a field. -/
def field : Shape m Field where
  title := "Field"
  start := { type := "" }
  slots := [
    required "type" text (·.type) fun f x => { f with type := x },
    always "unique" flag (·.unique) fun f x => { f with unique := x },
    always "lookup" flag (·.lookup) fun f x => { f with lookup := x },
    optional "required" flag (·.required) fun f x => { f with required := x },
    always "internal" flag (·.internal) fun f x => { f with internal := x },
    always "indexed" flag (·.indexed) fun f x => { f with indexed := x },
    optional "default" value (·.default) fun f x => { f with default := x },
    unlessEmpty "values" text (·.values) fun f x => { f with values := x },
    (optional "to" text (·.target) fun f x => { f with target := x }).alsoNamed ["ref", "target"],
    optional "description" text (·.description) fun f x => { f with description := x },
    unlessEmpty "constraints" (record constraint) (·.constraints)
      fun f x => { f with constraints := x }]

/-! ## Actions -/

/-- The members of an input of an action. -/
def actionInput : Shape m ActionInput where
  title := "ActionInput"
  start := {}
  slots := [
    optional "type" text (·.type) fun i x => { i with type := x },
    optional "field" text (·.field) fun i x => { i with field := x },
    always "required" flag (·.required) fun i x => { i with required := x },
    optional "default" value (·.default) fun i x => { i with default := x },
    optional "prompt" text (·.prompt) fun i x => { i with prompt := x },
    optional "description" text (·.description) fun i x => { i with description := x }]

/-- The members of an action. -/
def action : Shape m Action where
  title := "Action"
  start := {}
  slots := [
    optional "description" text (·.description) fun a x => { a with description := x },
    always "set" (dict value) (·.set) fun a x => { a with set := x },
    always "inputs" (dict (record actionInput)) (·.inputs) fun a x => { a with inputs := x },
    always "output" (list text) (·.output) fun a x => { a with output := x },
    optional "auth" text (·.auth) fun a x => { a with auth := x },
    always "confirm" flag (·.confirm) fun a x => { a with confirm := x },
    optional "before" text (·.before) fun a x => { a with before := x },
    optional "after" text (·.after) fun a x => { a with after := x }]

/-! ## Channels -/

/-- The members of an endpoint. -/
def endpoint : Shape m Endpoint where
  title := "Endpoint"
  start := ⟨"", "", ""⟩
  slots := [
    required "method" text (·.method) fun e x => { e with method := x },
    required "path" text (·.path) fun e x => { e with path := x },
    required "action" text (·.action) fun e x => { e with action := x }]

/-- The members of the HTTP channel. -/
def httpChannel : Shape m HttpChannel where
  title := "HttpChannel"
  start := {}
  slots := [
    always "enabled" flag (·.enabled) fun c x => { c with enabled := x },
    optional "base_path" text (·.basePath) fun c x => { c with basePath := x },
    unlessEmpty "endpoints" (record endpoint) (·.endpoints)
      fun c x => { c with endpoints := x }]

/-- The members of the command line channel. -/
def cliChannel : Shape m CliChannel where
  title := "CliChannel"
  start := {}
  slots := [
    always "enabled" flag (·.enabled) fun c x => { c with enabled := x },
    optional "command" text (·.command) fun c x => { c with command := x }]

/-- The members of the terminal channel. -/
def ttyChannel : Shape m TtyChannel where
  title := "TtyChannel"
  start := {}
  slots := [always "enabled" flag (·.enabled) fun c x => { c with enabled := x }]

/-- The members of the web socket channel. -/
def socketChannel : Shape m SocketChannel where
  title := "WebSocketChannel"
  start := {}
  slots := [
    always "enabled" flag (·.enabled) fun c x => { c with enabled := x },
    optional "path" text (·.path) fun c x => { c with path := x }]

/-- The members of the web hook channel. -/
def webhookChannel : Shape m WebhookChannel where
  title := "WebhookChannel"
  start := {}
  slots := [
    always "enabled" flag (·.enabled) fun c x => { c with enabled := x },
    optional "path" text (·.path) fun c x => { c with path := x }]

/-- The members of the gRPC channel. -/
def grpcChannel : Shape m GrpcChannel where
  title := "GrpcChannel"
  start := {}
  slots := [
    always "enabled" flag (·.enabled) fun c x => { c with enabled := x },
    optional "service" text (·.service) fun c x => { c with service := x },
    optional "package" text (·.package) fun c x => { c with package := x }]

/-- The members of the channels. -/
def channels : Shape m Channels where
  title := "Channels"
  start := {}
  slots := [
    always "http" (record httpChannel) (·.http) fun c x => { c with http := x },
    always "cli" (record cliChannel) (·.cli) fun c x => { c with cli := x },
    always "tty" (record ttyChannel) (·.tty) fun c x => { c with tty := x },
    (always "websocket" (record socketChannel) (·.websocket)
      fun c x => { c with websocket := x }).alsoNamed ["ws"],
    always "webhook" (record webhookChannel) (·.webhook) fun c x => { c with webhook := x },
    always "grpc" (record grpcChannel) (·.grpc) fun c x => { c with grpc := x }]

/-! ## Modules -/

/-- The members of what a declaration says about itself. -/
def about : Shape m About where
  title := "ModuleMeta"
  start := {}
  slots := [
    always "version" text (·.version) fun a x => { a with version := x },
    optional "description" text (·.description) fun a x => { a with description := x },
    always "dependencies" (list text) (·.dependencies) fun a x => { a with dependencies := x },
    optional "plural" text (·.plural) fun a x => { a with plural := x },
    optional "table" text (·.table) fun a x => { a with table := x }]

/-- The members of a module. -/
def module : Shape m Module where
  title := "Module"
  start := {}
  slots := [
    always "module" text (·.name) fun d x => { d with name := x },
    optional "capability" text (·.capability) fun d x => { d with capability := x },
    always "schema" (dict (record field)) (·.schema) fun d x => { d with schema := x },
    always "actions" (dict (record action)) (·.actions) fun d x => { d with actions := x },
    always "channels" (record channels) (·.channels) fun d x => { d with channels := x },
    always "meta" (record about) (·.about) fun d x => { d with about := x }]

end Registrar.Shapes
