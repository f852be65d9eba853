import Registrar.Command.Help
import Registrar.Command.Parsing
import Registrar.Command.Report

/-!
# Responses

`respond` is the whole program: what it prints for some arguments, given the texts of the files that
they name, and the status with which it ends. Status 1 tells that something was wrong with the files
or that nothing was found, status 2 that the arguments make no command.
-/

namespace Registrar

open Document (FileReader)

/-! ## Responses -/

/-- What the program prints, on its output and apart from it, and its status. -/
structure Response where
  status : Nat := 0
  output : String := ""
  errors : String := ""
  deriving DecidableEq, Repr

/-- The status that tells whether all went well. -/
def statusOf (ok : Bool) : Nat := if ok then 0 else 1

/-! ## Failures of whole commands -/

/-- Why a command is not carried out. -/
inductive CommandError
  | configUnread (path : String) (f : FileFault)
  /-- The configuration is no document of its shape. The text says why. -/
  | configFault (path text : String)
  | refusal (e : RegistryError)
  | unknownTag (t : UnknownTag)
  deriving DecidableEq, Repr

/-- What failed. -/
def CommandError.message : CommandError → String
  | configUnread path _ => s!"reading config {path}"
  | configFault path _ => s!"parsing config {path}"
  | refusal e => e.message
  | unknownTag t => t.message

/-- Why it failed, where that is told apart. -/
def CommandError.cause? : CommandError → Option String
  | configUnread _ f => some f.message
  | configFault _ text => some text
  | refusal _ | unknownTag _ => none

/-- A text whose lines are indented. -/
def indented (s : String) : String :=
  String.ofList (s.toList.flatMap fun c => if c = '\n' then "\n    ".toList else [c])

/-- What the program prints about an error. -/
def CommandError.text (e : CommandError) : String :=
  let cause := match e.cause? with
    | some cause => "\n\nCaused by:\n    " ++ indented cause
    | none => ""
  "Error: " ++ e.message ++ cause ++ "\n"

/-! ## Tasks -/

/-- Loads the declarations in files. -/
def loadFiles (read : FileReader) (files : List String) : List LoadedFile :=
  files.map fun path => ⟨path, Document.loadFile read path⟩

/-- The line about a file that is no good. -/
def rejectionLine (path : String) (e : DocumentError) : String := s!"✗ {path}: {e.message}"

/-- Tells of every file whether the declaration in it is valid. -/
def validateFiles (files : List LoadedFile) : Response where
  status := statusOf (files.all (·.result.isOk))
  output := linesText (files.map fun f =>
    match f.result with
    | .ok m => s!"✓ {f.path}: module '{m.displayName}' is valid"
    | .error e => rejectionLine f.path e)

/-- The lines about the claims of a declaration. -/
def ClaimReport.lines (r : ClaimReport) : List String :=
  s!"{r.module} ({r.path}):" :: r.claims.map ("  " ++ ·.key)

/-- The claims that the declarations in files derive. -/
def claimReports (mode : EndpointMode) (files : List LoadedFile) : List ClaimReport :=
  files.filterMap fun f =>
    match f.result with
    | .ok m => some ⟨f.path, m.name, m.claims mode m.plural⟩
    | .error _ => none

/-- Lists the claims of every file that has a valid declaration. -/
def listPaths (mode : EndpointMode) (json : Bool) (files : List LoadedFile) : Response where
  status := statusOf (files.all (·.result.isOk))
  output :=
    let reports := claimReports mode files
    if json then Json.pretty (.array (reports.map (·.toValue))) ++ "\n"
    else linesText (reports.flatMap (·.lines))
  errors := linesText (files.filterMap fun f =>
    match f.result with
    | .ok _ => none
    | .error e => some (rejectionLine f.path e))

/-- Registers every file, and reports what came of it. -/
def checkFiles (r : Registry) (files : List LoadedFile) : Response :=
  let report := r.check files
  { status := statusOf report.failures.isEmpty
    output := Json.pretty report.toValue ++ "\n" }

/-- Registers every file, and resolves a request. -/
def lookupPath (r : Registry) (t : Transport) (method path : String) (files : List LoadedFile) :
    Response :=
  let (r, failures) := r.registerFiles files
  let errors := linesText (failures.map fun f => "warning: " ++ f.error.message)
  match r.lookup t method path with
  | some found => { output := Json.pretty found.toValue ++ "\n", errors }
  | none => { status := 1, output := s!"no {t.tag} claim matches {path}\n", errors }

/-! ## Commands -/

namespace Command

/-- The configuration that a command asks for. -/
def configuration (read : FileReader) (c : Command) : Except CommandError Config := do
  let config : Config ← match c.config with
    | none => .ok {}
    | some path =>
      match read path with
      | .error f => .error (.configUnread path f)
      | .ok text =>
        match Json.read (Json.record Shapes.config) text with
        | .error f => .error (.configFault path (f.message text))
        | .ok config => .ok config
  return if c.replaceImplicit then { config with endpoints := .replaceImplicit } else config

/-- Carries out a command. -/
def run (read : FileReader) (c : Command) : Except CommandError Response := do
  let config ← c.configuration read
  match Registry.withConfig config with
  | .error e => .error (.refusal e)
  | .ok r =>
    let files := loadFiles read c.task.files
    match c.task with
    | .validate _ => .ok (validateFiles files)
    | .paths _ json => .ok (listPaths config.endpoints json files)
    | .check _ => .ok (checkFiles r files)
    | .lookup _ transport method path =>
      match Transport.ofTag transport with
      | .error t => .error (.unknownTag t)
      | .ok t => .ok (lookupPath r t method path files)

/-- The files that a command may read. -/
def inputs (c : Command) : List String := c.config.toList ++ c.task.files

end Command

/-! ## The program -/

/-- What the program does when it is asked for something. -/
def Request.respond (read : FileReader) : Request → Response
  | .run c =>
    match c.run read with
    | .ok response => response
    | .error e => { status := 1, errors := e.text }
  | .help topic => { output := topic.text }
  | .version => { output := programName ++ " " ++ programVersion ++ "\n" }

/-- What the program does with its arguments. -/
def respond (read : FileReader) (args : List String) : Response :=
  match Request.parse? args with
  | some r => r.respond read
  | none => { status := 2 }

end Registrar
