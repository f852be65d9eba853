import Registrar.Claim
import Registrar.Config
import Registrar.Validation

/-!
# Errors

Why a document is not loaded (`DocumentError`) and why a registry refuses an operation
(`RegistryError`). Each error has a message and one of a fixed set of codes.
-/

namespace Registrar

/-! ## Codes -/

/-- The stable codes of errors. -/
inductive ErrorCode
  | parseError | ioError | unsupportedFormat
  | validationFailed | capabilityDeclaration
  | duplicateModule | tableConflict | pathConflict | notRegistered | limitExceeded
  | configurationError
  deriving DecidableEq, Repr

namespace ErrorCode

/-- The codes in the order of their definition. -/
def all : List ErrorCode :=
  [parseError, ioError, unsupportedFormat, validationFailed, capabilityDeclaration,
    duplicateModule, tableConflict, pathConflict, notRegistered, limitExceeded,
    configurationError]

/-- The name that reports give. -/
def name : ErrorCode → String
  | parseError => "PARSE_ERROR"
  | ioError => "IO_ERROR"
  | unsupportedFormat => "UNSUPPORTED_FORMAT"
  | validationFailed => "VALIDATION_FAILED"
  | capabilityDeclaration => "CAPABILITY_DECLARATION"
  | duplicateModule => "DUPLICATE_MODULE"
  | tableConflict => "TABLE_CONFLICT"
  | pathConflict => "PATH_CONFLICT"
  | notRegistered => "NOT_REGISTERED"
  | limitExceeded => "LIMIT_EXCEEDED"
  | configurationError => "CONFIGURATION_ERROR"

/-- The name that documents give. -/
def documentName : ErrorCode → String
  | parseError => "ParseError"
  | ioError => "IoError"
  | unsupportedFormat => "UnsupportedFormat"
  | validationFailed => "ValidationFailed"
  | capabilityDeclaration => "CapabilityDeclaration"
  | duplicateModule => "DuplicateModule"
  | tableConflict => "TableConflict"
  | pathConflict => "PathConflict"
  | notRegistered => "NotRegistered"
  | limitExceeded => "LimitExceeded"
  | configurationError => "ConfigurationError"

/-- The general message. -/
def message : ErrorCode → String
  | parseError => "Parse error"
  | ioError => "I/O error"
  | unsupportedFormat => "Unsupported document format"
  | validationFailed => "Validation failed"
  | capabilityDeclaration => "Capability declarations cannot be registered"
  | duplicateModule => "Module already registered"
  | tableConflict => "Table already claimed"
  | pathConflict => "Path conflict"
  | notRegistered => "Module not registered"
  | limitExceeded => "Registry limit exceeded"
  | configurationError => "Configuration error"

/-- The number. -/
def number : ErrorCode → Int
  | parseError => -32700
  | ioError => -32701
  | unsupportedFormat => -32702
  | validationFailed => -32005
  | capabilityDeclaration => -32006
  | duplicateModule => -32100
  | tableConflict => -32101
  | pathConflict => -32102
  | notRegistered => -32104
  | limitExceeded => -32110
  | configurationError => -32008

/-- The code with a number. -/
def ofNumber? (n : Int) : Option ErrorCode := all.find? (·.number = n)

theorem ofNumber?_number (c : ErrorCode) : ofNumber? c.number = some c := by
  cases c <;> rfl

end ErrorCode

/-! ## Documents -/

/-- Why no valid declaration comes out of a document. Texts name the format, and the context says
which file was read. -/
inductive DocumentError
  | empty (format context : String)
  | syntaxError (format context : String) (line column : Nat) (message : String)
  | dataError (format context message : String)
  /-- A YAML text that is no declaration. -/
  | yaml (context : String)
  | io (path message : String)
  | unsupported (path : String)
  | invalid (report : Report)
  deriving DecidableEq, Repr

namespace DocumentError

/-- The message about an error. -/
def message : DocumentError → String
  | empty format context => s!"{format} parsing error{context}: input string is empty"
  | syntaxError format context line column message =>
    s!"{format} parsing error{context} - Syntax error at line {line}, column {column}: {message}"
  | dataError format context message =>
    s!"{format} parsing error{context} - Invalid data structure: {message}"
  | yaml context => s!"YAML parsing error{context} - Invalid data structure: no module"
  | io path message => s!"Failed to read file {path}: {message}"
  | unsupported path =>
    s!"Unsupported document format (file: {path}). " ++
      "Enable the 'yaml-support' feature for YAML documents."
  | invalid report => report.message

/-- The code of an error. -/
def code : DocumentError → ErrorCode
  | empty .. | syntaxError .. | dataError .. | yaml .. => .parseError
  | io .. => .ioError
  | unsupported .. => .unsupportedFormat
  | invalid .. => .validationFailed

end DocumentError

/-! ## The registry -/

/-- An address that two owners claim. -/
structure Conflict where
  transport : Transport
  method : Option String
  path : String
  key : String
  /-- Who claims it already. -/
  existing : Owner
  /-- Who would claim it too. -/
  incoming : Owner
  deriving DecidableEq, Repr

/-- The text of a conflict. -/
def Conflict.text (c : Conflict) : String :=
  s!"{Claim.addressText c.transport c.method c.path} claimed by {c.existing.text} and " ++
    c.incoming.text

/-- A limit of the registry that a module would exceed. -/
inductive Excess
  | modules (limit : Nat)
  | claims (module : String) (count limit : Nat)
  /-- A limit that is told in its own words. -/
  | told (text : String)
  deriving DecidableEq, Repr

/-- The message about a limit. -/
def Excess.message : Excess → String
  | modules limit => s!"maximum modules ({limit}) exceeded"
  | claims module count limit =>
    s!"module '{module}' derives {count} path claims, maximum is {limit}"
  | told text => text

/-- Why a registry refuses an operation. -/
inductive RegistryError
  | invalid (report : Report)
  | duplicate (module : String)
  | tableTaken (module table owner : String)
  | pathsTaken (module : String) (conflicts : List Conflict)
  | notRegistered (module : String)
  | capability (name : String)
  | limit (excess : Excess)
  | configuration (problem : ConfigProblem)
  deriving DecidableEq, Repr

namespace RegistryError

/-- The message about an error. -/
def message : RegistryError → String
  | invalid report => report.message
  | duplicate module => s!"module '{module}' is already registered"
  | tableTaken module table owner =>
    s!"table '{table}' requested by module '{module}' is already owned by module '{owner}'"
  | pathsTaken module conflicts =>
    s!"module '{module}' has {conflicts.length} path conflict(s): " ++
      "; ".intercalate (conflicts.map (·.text))
  | notRegistered module => s!"module '{module}' is not registered"
  | capability name => s!"capability declaration '{name}' cannot be registered as a module"
  | limit excess => s!"registry limit exceeded: {excess.message}"
  | configuration problem => s!"invalid registry configuration: {problem.message}"

/-- The code of an error. -/
def code : RegistryError → ErrorCode
  | invalid .. => .validationFailed
  | duplicate .. => .duplicateModule
  | tableTaken .. => .tableConflict
  | pathsTaken .. => .pathConflict
  | notRegistered .. => .notRegistered
  | capability .. => .capabilityDeclaration
  | limit .. => .limitExceeded
  | configuration .. => .configurationError

/-- The conflicts over addresses, if these are the error. -/
def conflicts? : RegistryError → Option (List Conflict)
  | pathsTaken _ conflicts => some conflicts
  | _ => none

end RegistryError

end Registrar
