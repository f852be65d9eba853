import Registrar.Document.Scan
import Registrar.Error
import Registrar.Json.Printer
import Registrar.Json.Reader
import Registrar.Schema.Shapes
import Registrar.Yaml.Printer
import Registrar.Yaml.Reader

/-!
# Declarations as documents

A declaration is a document in JSON or YAML. `Document.parse` reads one, `Document.load` also
validates it, and `Document.print` writes one.
-/

namespace Registrar.Document

open Text

/-- The formats of documents. -/
inductive Format
  | json
  | yaml
  deriving DecidableEq, Repr

/-- The format that the name of a file tells, which is JSON unless it ends as names of YAML files
do. -/
def Format.ofPath (path : String) : Format :=
  let ends := fun (suffix : String) => suffix.toList.isSuffixOf path.toList
  if ends ".yaml" || ends ".yml" then .yaml else .json

/-- What messages say about the file that was read. -/
def contextOf (file : Option String) : String :=
  match file with
  | some path => s!" (file: {path})"
  | none => ""

/-- The error about a fault in JSON text. -/
def faultError (text context : String) (f : Json.Fault) : DocumentError :=
  match f.cause with
  | .flaw _ =>
    let (line, column) := f.place text
    .syntaxError "JSON" context line column (f.message text)
  | .mismatch _ => .dataError "JSON" context (f.message text)

/-- Reads a declaration from JSON. -/
def parseJson (text context : String) : Except DocumentError Module :=
  if isBlankText text then .error (.empty "JSON" context)
  else match Json.read (Json.record Shapes.module) text with
    | .ok m => .ok m
    | .error f => .error (faultError text context f)

/-- Reads a declaration from YAML. -/
def parseYaml (text context : String) : Except DocumentError Module :=
  if isBlankText text then .error (.empty "YAML" context)
  else match Yaml.read? (Yaml.Reader.record Shapes.module) text with
    | some m => .ok m
    | none => .error (.yaml context)

/-- Reads a declaration. -/
def parse (format : Format) (file : Option String) (text : String) :
    Except DocumentError Module :=
  match format with
  | .json => parseJson text (contextOf file)
  | .yaml => parseYaml text (contextOf file)

/-- The declaration, if it is valid. -/
def accept (m : Module) : Except DocumentError Module :=
  match m.report? with
  | some report => .error (.invalid report)
  | none => .ok m

/-- Reads a declaration and validates it. -/
def load (format : Format) (file : Option String) (text : String) :
    Except DocumentError Module :=
  parse format file text >>= accept

/-- The value that a declaration is written as. -/
def ofModule (m : Module) : Value := (Shapes.module (m := Scan)).write m

/-- Writes a declaration. -/
def print (format : Format) (m : Module) : String :=
  match format with
  | .json => Json.pretty (ofModule m)
  | .yaml => Yaml.text (ofModule m)

end Registrar.Document
