import Registrar.Uuid
import Registrar.Violation

/-!
# Validation of declarations

`Module.problems` lists everything that is wrong with a declaration, in the order in which the
declaration is read: its identity, its fields, its actions, its channels. A declaration without
problems is valid. A `Report` is such a list in words.
-/

namespace Registrar

open Text

/-! ## Problems -/

/-- Something that is wrong with a declaration. -/
inductive Problem
  | capabilityMissing
  | capabilityName (name : String)
  | moduleMissing
  | moduleName (name : String)
  | noFields
  | fieldName (name : String)
  | fieldType (field tag : String)
  | enumWithoutValues (field : String)
  | refWithoutTarget (field : String)
  | emptyRange (field : String) (min max : Binary64)
  | emptyLengthRange (field : String) (min max : Binary64)
  | constraintType (field tag : String)
  | defaultType (field : String) (default : Value) (expected : String)
  | defaultMember (field member : String) (members : List String)
  | defaultUuid (field : String) (default : Value)
  | defaultViolation (field : String) (default : Value) (violation : Violation)
  | actionName (name : String)
  | setField (action field : String)
  | inputName (action input : String)
  | inputField (action input field : String)
  | inputType (action input tag : String)
  | relativePath (label path : String)
  | endpointMethod (endpoint : Endpoint)
  | endpointPath (endpoint : Endpoint)
  | endpointAction (endpoint : Endpoint)
  | blankCommand
  | serviceName (name : String)
  deriving DecidableEq

/-- The message about a problem. -/
def Problem.message : Problem → String
  | capabilityMissing => "capability name is required"
  | capabilityName name => s!"invalid capability name '{name}'"
  | moduleMissing => "module name is required"
  | moduleName name => s!"invalid module name '{name}'"
  | noFields => "module must declare at least one field in schema"
  | fieldName name => s!"invalid field name '{name}'"
  | fieldType field tag => s!"field '{field}': unknown type '{tag}'"
  | enumWithoutValues field => s!"field '{field}': enum type requires values"
  | refWithoutTarget field => s!"field '{field}': ref type requires a target module"
  | emptyRange field min max =>
    s!"field '{field}': min constraint {min.text .plain} is greater than max {max.text .plain}"
  | emptyLengthRange field min max =>
    s!"field '{field}': min_length constraint {min.text .plain} is greater than " ++
      s!"max_length {max.text .plain}"
  | constraintType field tag => s!"field '{field}': unknown constraint type '{tag}'"
  | defaultType field default expected =>
    s!"field '{field}': default value {Json.compact default} is not {expected} " ++
      s!"(got {default.kindName})"
  | defaultMember field member members =>
    s!"field '{field}': default value '{member}' is not one of [" ++ ", ".intercalate members ++ "]"
  | defaultUuid field default =>
    s!"field '{field}': default value {Json.compact default} is not a valid UUID"
  | defaultViolation field default violation =>
    s!"field '{field}': default value {Json.compact default} violates {violation.kind.tag} " ++
      s!"constraint: {violation.message}"
  | actionName name => s!"invalid action name '{name}'"
  | setField action field => s!"action '{action}': set references unknown field '{field}'"
  | inputName action input => s!"action '{action}': invalid input name '{input}'"
  | inputField action input field =>
    s!"action '{action}': input '{input}' maps to unknown field '{field}'"
  | inputType action input tag => s!"action '{action}': input '{input}' has unknown type '{tag}'"
  | relativePath label path => s!"{label} '{path}' must start with '/'"
  | endpointMethod e => s!"http endpoint {e.method} {e.path}: unknown method '{e.method}'"
  | endpointPath e => s!"http endpoint {e.method} {e.path}: path must start with '/'"
  | endpointAction e => s!"http endpoint {e.method} {e.path}: unknown action '{e.action}'"
  | blankCommand => "cli command must not be blank"
  | serviceName name => s!"invalid grpc service name '{name}'"

/-- The problem, unless the condition holds. -/
def demand (ok : Bool) (p : Problem) : List Problem := if ok then [] else [p]

/-! ## Fields -/

namespace Field

/-- The first number that a constraint of the kind has as its argument. -/
def bound? (f : Field) (kind : ConstraintKind) : Option Binary64 :=
  f.constraints.findSome? fun c => if c.kind? = some kind then c.value.toDouble? else none

/-- The problem of two bounds the wrong way round. -/
def rangeProblems (low high : Option Binary64) (p : Binary64 → Binary64 → Problem) :
    List Problem :=
  match low, high with
  | some low, some high => demand (!high.lt low) (p low high)
  | _, _ => []

/-- What is wrong with the constraints of the field. Patterns that are not well formed are not
counted. -/
def constraintProblems (f : Field) (name : String) : List Problem :=
  rangeProblems (f.bound? .min) (f.bound? .max) (.emptyRange name) ++
  rangeProblems (f.bound? .minLength) (f.bound? .maxLength) (.emptyLengthRange name) ++
  f.constraints.flatMap fun c => demand c.kind?.isSome (.constraintType name c.type)

/-- What a type demands beside its tag. -/
def typeProblems (f : Field) (name : String) : FieldType → List Problem
  | .enum => demand (!f.values.isEmpty) (.enumWithoutValues name)
  | .ref => demand (nonBlank? f.target).isSome (.refWithoutTarget name)
  | _ => []

/-- How a default fails to be of the type of the field. -/
def defaultProblem? (f : Field) (name : String) (type : FieldType) (default : Value) :
    Option Problem :=
  let expect := fun (ok : Bool) (expected : String) =>
    if ok then none else some (Problem.defaultType name default expected)
  let isText := default.text?.isSome
  match type with
  | .int => expect default.isIntegral "an integer"
  | .float => expect default.toDouble?.isSome "a number"
  | .bool => expect (default.kindName = "boolean") "a boolean"
  | .enum =>
    match default.text? with
    | some member =>
      if f.values.contains member then none else some (.defaultMember name member f.values)
    | none => expect false "an enum member string"
  | .string | .email | .url | .secret => expect isText "a string"
  | .uuid =>
    match default.text? with
    | some s => if Uuid.isUuid s then none else some (.defaultUuid name default)
    | none => expect false "a string"
  | .strings =>
    expect ((default.items?.map (·.all (·.text?.isSome))).getD false) "an array of strings"
  | .ints => expect ((default.items?.map (·.all (·.isIntegral))).getD false) "an array of integers"
  | .timestamp | .duration | .json | .bytes | .ref => none

/-- What is wrong with the default. It is held against the constraints only if these are sound. -/
def defaultProblems (f : Field) (name : String) (type : FieldType) : List Problem :=
  match f.default with
  | none => []
  | some default =>
    match f.defaultProblem? name type default with
    | some p => [p]
    | none =>
      if (f.constraintProblems name).isEmpty then
        (f.violations name default).map (.defaultViolation name default)
      else []

/-- What is wrong with the field of that name. -/
def problems (f : Field) (name : String) : List Problem :=
  demand (Naming.isIdentifier name) (.fieldName name) ++
  match f.fieldType? with
  | none => .fieldType name f.type :: f.constraintProblems name
  | some type =>
    f.typeProblems name type ++ f.constraintProblems name ++ f.defaultProblems name type

end Field

/-! ## Actions -/

/-- What is wrong with an input of an action. -/
def ActionInput.problems (i : ActionInput) (m : Module) (action name : String) : List Problem :=
  demand (Naming.isIdentifier name) (.inputName action name) ++
  (i.field.toList.flatMap fun field =>
    demand (m.schema.contains field) (.inputField action name field)) ++
  (i.type.toList.flatMap fun tag =>
    demand (FieldType.ofTag? tag).isSome (.inputType action name tag))

/-- What is wrong with the action of that name. -/
def Action.problems (a : Action) (m : Module) (name : String) : List Problem :=
  demand (Naming.isIdentifier name) (.actionName name) ++
  (a.set.keys.flatMap fun field => demand (m.schema.contains field) (.setField name field)) ++
  a.inputs.entries.flatMap fun e => e.2.problems m name e.1

/-! ## Channels -/

/-- The methods that an endpoint may name. -/
def httpMethods : List String := ["GET", "POST", "PUT", "PATCH", "DELETE", "HEAD", "OPTIONS"]

/-- Whether the path starts with a slash, blanks aside. -/
def isAbsolute (path : String) : Bool := (trim path).toList.head? = some '/'

/-- What is wrong with a path that is given for a channel. -/
def pathProblems (label : String) (path : Option String) : List Problem :=
  path.toList.flatMap fun path => demand (isAbsolute path) (.relativePath label path)

/-- What is wrong with an endpoint. -/
def Endpoint.problems (e : Endpoint) (m : Module) : List Problem :=
  demand (httpMethods.contains (toUpper (trim e.method))) (.endpointMethod e) ++
  demand (isAbsolute e.path) (.endpointPath e) ++
  demand (m.hasAction e.action) (.endpointAction e)

namespace Module

/-- What is wrong with the channels. -/
def channelProblems (m : Module) : List Problem :=
  pathProblems "http base_path" m.channels.http.basePath ++
  pathProblems "websocket path" m.channels.websocket.path ++
  pathProblems "webhook path" m.channels.webhook.path ++
  (m.channels.http.endpoints.flatMap fun e => e.problems m) ++
  (m.channels.cli.command.toList.flatMap fun c => demand (!isBlankText c) .blankCommand) ++
  (m.channels.grpc.service.toList.flatMap fun s => demand (Naming.isIdentifier s) (.serviceName s))

/-! ## Modules -/

/-- What is wrong with the names of the declaration, and whether fields are missing. A capability
needs no fields and no name of a module. -/
def identityProblems (m : Module) : List Problem :=
  match m.capability with
  | some capability =>
    let capability := trim capability
    (if capability = "" then [.capabilityMissing]
      else demand (Naming.isIdentifier capability) (.capabilityName capability)) ++
    demand (m.name = "" || Naming.isIdentifier m.name) (.moduleName m.name)
  | none =>
    (if m.name = "" then [.moduleMissing]
      else demand (Naming.isIdentifier m.name) (.moduleName m.name)) ++
    demand (!m.schema.isEmpty) .noFields

/-- Everything that is wrong with the declaration. -/
def problems (m : Module) : List Problem :=
  m.identityProblems ++ (m.schema.entries.flatMap fun e => e.2.problems e.1) ++
  (m.actions.entries.flatMap fun e => e.2.problems m e.1) ++ m.channelProblems

end Module

/-! ## Reports -/

/-- The problems of a declaration in words. -/
structure Report where
  module : String
  errors : List String
  deriving DecidableEq, Repr

/-- The message of a report. -/
def Report.message (r : Report) : String :=
  s!"invalid module '{r.module}': " ++ "; ".intercalate r.errors

/-- The report, if it has any errors. -/
def Report.nonempty? (r : Report) : Option Report := if r.errors.isEmpty then none else some r

namespace Module

/-- The report on a declaration that is not valid. -/
def report? (m : Module) : Option Report :=
  Report.nonempty? ⟨m.displayName, m.problems.map (·.message)⟩

/-- A summary of the validity of the declaration for people. -/
def summary (m : Module) : String :=
  match m.report? with
  | none => s!"Module '{m.displayName}' appears to be valid"
  | some r =>
    let lines := r.errors.map fun e => s!"• {e}"
    s!"Module '{r.module}' issues found:\n" ++ "\n".intercalate lines

end Module

end Registrar
