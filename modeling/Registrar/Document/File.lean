import Registrar.Document
import Registrar.Folder

/-!
# Declarations in files

The name of a file tells the format of the declaration in it. Files are read by any function from
paths to texts, of which `Folder.readText` is one; whole folders are read and files are written in a
`Folder`.
-/

namespace Registrar.Document

open Text

/-- The texts of files. -/
abbrev FileReader := String → Except FileFault String

/-! ## Files -/

/-- The error about a file that cannot be used. -/
def fileError (path : String) (f : FileFault) : DocumentError := .io path f.message

/-- Reads the declaration in a file. -/
def parseFile (read : FileReader) (path : String) : Except DocumentError Module :=
  if isBlankText path then .error (.io "" "File path cannot be empty")
  else match read path with
    | .ok text => parse (.ofPath path) (some path) text
    | .error f => .error (fileError path f)

/-- Reads the declaration in a file and validates it. -/
def loadFile (read : FileReader) (path : String) : Except DocumentError Module :=
  parseFile read path >>= accept

/-- Reads the declarations in files, up to the first that has none. -/
def parseFiles (read : FileReader) (paths : List String) : Except DocumentError (List Module) :=
  paths.mapM (parseFile read)

/-- Writes a declaration into a file. -/
def writeFile (d : Folder) (m : Module) (path : String) : Except DocumentError Folder :=
  match d.write path (print (.ofPath path) m).toUTF8 with
  | .ok d => .ok d
  | .error f => .error (fileError path f)

/-! ## Folders -/

/-- What follows the last dot of a name that has a dot after its first character. -/
def extension? (name : String) : Option String :=
  match (name.toList.splitOn '.').reverse with
  | [] | [_] | [_, []] => none
  | last :: _ => some (String.ofList last)

/-- Whether the name of a file says that there is a declaration in it. -/
def isDocumentName (name : String) : Bool :=
  match extension? name with
  | some e => ["json", "yaml", "yml"].contains e
  | none => false

/-- Reads the declarations in a folder in the order of their names, each with the path of its file,
up to the first file that has none. -/
def parseFolder (d : Folder) (path : String) :
    Except DocumentError (List (String × Module)) :=
  match d.list path with
  | .error f => .error (fileError path f)
  | .ok names => (names.filter isDocumentName).mapM fun name => do
    let file := Folder.under path name
    return (file, ← parseFile d.readText file)

end Registrar.Document
