import Registrar.Dict

/-!
# Folders

A `Folder` is a value that holds files and other folders, each under the names that lead to it. A
path is resolved name by name (`Folder.step`): every name but the last must stand for a folder.
Files are read as text, written, and listed; where that fails, a `FileFault` says why.
-/

namespace Registrar

/-! ## Faults -/

/-- Why a file or a folder cannot be used. -/
inductive FileFault
  | notFound
  | isFolder
  | notFolder
  | nameTooLong
  /-- The path holds a NUL character. -/
  | nul
  /-- The content of the file is not UTF-8. -/
  | notText
  /-- A fault that is told in its own words. -/
  | told (text : String)
  deriving DecidableEq, Repr

/-- The message about a fault. -/
def FileFault.message : FileFault → String
  | notFound => "No such file or directory (os error 2)"
  | isFolder => "Is a directory (os error 21)"
  | notFolder => "Not a directory (os error 20)"
  | nameTooLong => "File name too long (os error 36)"
  | nul => "file name contained an unexpected NUL byte"
  | notText => "stream did not contain valid UTF-8"
  | told text => text

/-! ## Places -/

/-- Where a path leads: to the place inside the folder under the given names, innermost first, or
out of the folder. -/
inductive Place
  | inside (names : List String)
  | outside
  deriving DecidableEq, Repr

namespace Place

/-- The place under a name. -/
def child (name : String) : Place → Place
  | inside names => inside (name :: names)
  | outside => outside

/-- The place above. -/
def parent : Place → Place
  | inside (_ :: names) => inside names
  | inside [] | outside => outside

end Place

/-- The names of a path between its slashes. -/
def namesOf (path : String) : List String := (path.toList.splitOn '/').map String.ofList

/-- The path of an entry under the given names, innermost first. -/
def pathOf (names : List String) : String := "/".intercalate names.reverse

/-- The greatest number of bytes of a name. -/
def nameLimit : Nat := 255

/-- The number of bytes that a path must stay below. -/
def pathLimit : Nat := 4096

/-! ## Folders -/

/-- What a path can lead to. -/
inductive Entry
  | file (content : ByteArray)
  | folder

/-- Files and folders by their paths, which are free of empty names and of dots. -/
structure Folder where
  entries : Dict Entry := ∅

namespace Folder

/-- What stands at a place. Outside the folder there is a folder of which nothing else is known. -/
def at? (d : Folder) : Place → Option Entry
  | .outside | .inside [] => some .folder
  | .inside names => d.entries.get? (pathOf names)

/-- Goes on from a place by a name of a path. -/
def step (d : Folder) (p : Place) (name : String) : Except FileFault Place :=
  match d.at? p with
  | none => .error .notFound
  | some (.file _) => .error .notFolder
  | some .folder =>
    if name = "" ∨ name = "." then .ok p
    else if name = ".." then .ok p.parent
    else if nameLimit < name.utf8ByteSize then .error .nameTooLong
    else if p = .outside then .error .notFound
    else .ok (p.child name)

/-- The fault of a path that no folder can resolve. -/
def pathFault? (path : String) : Option FileFault :=
  if '\x00' ∈ path.toList then some .nul
  else if path = "" then some .notFound
  else if pathLimit ≤ path.utf8ByteSize then some .nameTooLong
  else none

/-- Where the names of a path begin. -/
def startOf (path : String) : Place :=
  if path.toList.head? = some '/' then .outside else .inside []

/-- The place and the entry to which a path leads. -/
def find (d : Folder) (path : String) : Except FileFault (Place × Entry) := do
  if let some fault := pathFault? path then .error fault
  let p ← (namesOf path).foldlM d.step (startOf path)
  match d.at? p with
  | some e => .ok (p, e)
  | none => .error .notFound

/-! ## Reading -/

/-- The text of a file. -/
def readText (d : Folder) (path : String) : Except FileFault String :=
  match d.find path with
  | .error fault => .error fault
  | .ok (_, .folder) => .error .isFolder
  | .ok (_, .file content) => (String.fromUTF8? content).elim (.error .notText) .ok

/-- The name of an entry, if it stands right below the place. -/
def nameBelow? (p : Place) (entry : String) : Option String :=
  match (namesOf entry).reverse with
  | name :: names => if p = .inside names then some name else none
  | [] => none

/-- The names in a folder, in order. -/
def list (d : Folder) (path : String) : Except FileFault (List String) :=
  match d.find path with
  | .error fault => .error fault
  | .ok (_, .file _) => .error .notFolder
  | .ok (p, .folder) => .ok (d.entries.keys.filterMap (nameBelow? p))

/-- The path of what stands under a name in a folder. -/
def under (folder name : String) : String :=
  if folder.toList.getLast? = some '/' then folder ++ name else folder ++ "/" ++ name

/-! ## Writing -/

/-- The names of a path that are followed by a slash, and the last one, which is not. -/
def splitLast (path : String) : List String × String :=
  match (namesOf path).reverse with
  | name :: names => (names.reverse, name)
  | [] => ([], "")

/-- The folder with a file, in which a file that stands there already is replaced. A path that ends
in a slash leads to a folder, whether there is one or not. -/
def write (d : Folder) (path : String) (content : ByteArray) : Except FileFault Folder := do
  if let some fault := pathFault? path then .error fault
  let (names, name) := splitLast path
  let names := if name = "" then (names.reverse.dropWhile (· = "")).reverse.dropLast else names
  let p ← names.foldlM d.step (startOf path)
  let q ← d.step p name
  match d.at? q, q with
  | some .folder, _ | _, .outside => .error .isFolder
  | _, .inside names => .ok ⟨d.entries.insert (pathOf names) (.file content)⟩

/-- The folder with an entry under the given names, outermost first, and with the folders that lead
to it, below the given ones, innermost first. -/
def placeBelow (d : Folder) (e : Entry) (above : List String) : List String → Folder
  | [] => d
  | [name] => ⟨d.entries.insert (pathOf (name :: above)) e⟩
  | name :: names =>
    let key := pathOf (name :: above)
    let d := if d.entries.contains key then d else ⟨d.entries.insert key .folder⟩
    placeBelow d e (name :: above) names

/-- The folder with an entry, and with the folders that lead to it. -/
def place (d : Folder) (path : String) (e : Entry) : Folder :=
  d.placeBelow e [] ((namesOf path).filter fun name => name ≠ "" ∧ name ≠ ".")

end Folder

end Registrar
