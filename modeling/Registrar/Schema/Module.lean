import Registrar.Naming
import Registrar.Schema.Tag
import Registrar.Value

/-!
# Module declarations

A module declares its fields, its actions beyond the five that every module has, and the channels
on which it is exposed. A declaration that names a capability describes an interface only. This
file holds the types and what can be read off a declaration; whether it is well formed is another
matter.
-/

namespace Registrar

open Text

/-! ## Fields -/

/-- A rule for the values of a field: its tag, an argument and a message of its own. -/
structure Constraint where
  type : String
  value : Value := .null
  message : Option String := none
  deriving DecidableEq

/-- The kind of constraint, unless the tag is unknown. -/
def Constraint.kind? (c : Constraint) : Option ConstraintKind := ConstraintKind.ofTag? c.type

/-- A field of the schema. -/
structure Field where
  type : String
  unique : Bool := false
  /-- Whether a record can be looked up by the field. -/
  lookup : Bool := false
  /-- Whether a value must be given; a declaration may leave it open. -/
  required : Option Bool := none
  /-- Whether the field is never shown outside. -/
  internal : Bool := false
  indexed : Bool := false
  default : Option Value := none
  /-- The members of an enum. -/
  values : List String := []
  /-- The module that a reference refers to. -/
  target : Option String := none
  description : Option String := none
  constraints : List Constraint := []
  deriving DecidableEq

namespace Field

/-- The type of the field, unless the tag is unknown. -/
def fieldType? (f : Field) : Option FieldType := FieldType.ofTag? f.type

/-- Whether the field is declared as required. -/
def isRequired (f : Field) : Bool := f.required = some true

end Field

/-! ## Actions -/

/-- A value that a caller of an action supplies. -/
structure ActionInput where
  /-- The tag of its type; without one the type is that of the field it is mapped to. -/
  type : Option String := none
  /-- The field it is written to. -/
  field : Option String := none
  required : Bool := false
  default : Option Value := none
  prompt : Option String := none
  description : Option String := none
  deriving DecidableEq

/-- An action beyond the implicit ones. -/
structure Action where
  description : Option String := none
  /-- The values that it assigns to fields. -/
  set : Dict Value := ∅
  inputs : Dict ActionInput := ∅
  /-- The names of the results. -/
  output : List String := []
  auth : Option String := none
  confirm : Bool := false
  /-- The hook that runs before it. -/
  before : Option String := none
  /-- The hook that runs after it. -/
  after : Option String := none
  deriving DecidableEq

/-! ## Channels -/

/-- A method and a path bound to an action. -/
structure Endpoint where
  method : String
  path : String
  action : String
  deriving DecidableEq

/-- Exposure over HTTP. Without a base path it is a slash and the plural. -/
structure HttpChannel where
  enabled : Bool := false
  basePath : Option String := none
  endpoints : List Endpoint := []
  deriving DecidableEq

/-- Exposure on the command line. Without a command it is the plural. -/
structure CliChannel where
  enabled : Bool := false
  command : Option String := none
  deriving DecidableEq

/-- Exposure on a terminal, which has no addresses of its own. -/
structure TtyChannel where
  enabled : Bool := false
  deriving DecidableEq

/-- Exposure over a web socket. Without a path it is `/ws/` and the plural. -/
structure SocketChannel where
  enabled : Bool := false
  path : Option String := none
  deriving DecidableEq

/-- Exposure to web hooks. Without a path it is `/webhooks/` and the name of the module. -/
structure WebhookChannel where
  enabled : Bool := false
  path : Option String := none
  deriving DecidableEq

/-- Exposure over gRPC, under a service in a package. -/
structure GrpcChannel where
  enabled : Bool := false
  service : Option String := none
  package : Option String := none
  deriving DecidableEq

/-- The exposure of a module, channel by channel. -/
structure Channels where
  http : HttpChannel := {}
  cli : CliChannel := {}
  tty : TtyChannel := {}
  websocket : SocketChannel := {}
  webhook : WebhookChannel := {}
  grpc : GrpcChannel := {}
  deriving DecidableEq

/-- The names of the channels that are enabled. -/
def Channels.enabledNames (c : Channels) : List String :=
  [("http", c.http.enabled), ("cli", c.cli.enabled), ("tty", c.tty.enabled),
    ("websocket", c.websocket.enabled), ("webhook", c.webhook.enabled),
    ("grpc", c.grpc.enabled)].filterMap fun (name, enabled) => if enabled then some name else none

/-! ## Modules -/

/-- What a declaration says about itself. -/
structure About where
  version : String := ""
  description : Option String := none
  /-- The modules that it depends on. -/
  dependencies : List String := []
  /-- The plural, where the English one does not serve. -/
  plural : Option String := none
  /-- The storage table, where the plural does not serve. -/
  table : Option String := none
  deriving DecidableEq

/-- The declaration of a module, or of the capability it names. -/
structure Module where
  name : String := ""
  capability : Option String := none
  schema : Dict Field := ∅
  actions : Dict Action := ∅
  channels : Channels := {}
  about : About := {}
  deriving DecidableEq

/-- The actions that every module has. -/
def implicitActions : List String := ["list", "get", "create", "update", "delete"]

/-- The text without the blanks around it, unless nothing is left. -/
def nonBlank? (s : Option String) : Option String := (s.map trim).filter (· ≠ "")

namespace Module

/-- Whether only an interface is declared. -/
def isCapability (m : Module) : Bool := m.capability.isSome

/-- The name of the module, or of the capability where the module has none. -/
def displayName (m : Module) : String := if m.name = "" then m.capability.getD "" else m.name

/-- The plural that paths and commands use. -/
def plural (m : Module) : String := (nonBlank? m.about.plural).getD (Naming.pluralize m.name)

/-- The name of the storage table. -/
def table (m : Module) : String := (nonBlank? m.about.table).getD (Naming.toSnake m.plural)

/-- Whether the module has an action of that name. -/
def hasAction (m : Module) (name : String) : Bool :=
  implicitActions.contains name || m.actions.contains name

/-- The names of the actions, each once: the implicit ones and then the others. -/
def actionNames (m : Module) : List String :=
  implicitActions ++ m.actions.keys.filter fun name => !implicitActions.contains name

/-- The names of the fields with a property. -/
def fieldsWith (m : Module) (p : Field → Bool) : List String :=
  (m.schema.entries.filter fun e => p e.2).map (·.1)

/-- The fields by which a record can be looked up. -/
def lookupFields (m : Module) : List String := m.fieldsWith (·.lookup)

/-- The fields whose values are unique. -/
def uniqueFields (m : Module) : List String := m.fieldsWith (·.unique)

/-- The fields that may be shown outside. -/
def exposedFields (m : Module) : List String := m.fieldsWith fun f => !f.internal

/-- The fields that must have a value. -/
def requiredFields (m : Module) : List String := m.fieldsWith (·.isRequired)

end Module

/-- The type of an input: its own, or else that of the field it is mapped to. -/
def ActionInput.resolvedType? (i : ActionInput) (m : Module) : Option FieldType :=
  match i.type with
  | some tag => FieldType.ofTag? tag
  | none => do (← m.schema.get? (← i.field)).fieldType?

end Registrar
