import Registrar.Document.Shape
import Registrar.Yaml.Node
import Registrar.Yaml.Plain

/-!
# Reading declarations from YAML

A YAML node has no type of its own: what a scalar means depends on what is asked for. Asked for a
string, any scalar gives its text; asked for any value, a plain scalar gives what `Plain.of` says. A
record is a mapping, and where a list or a dictionary is asked for nothing at all is an empty one.

An alias is read as the node it stands for. Aliases may be nested, so that a short text could ask
for an unbounded amount of reading: how often aliases are followed is bounded by the size of the
document, and how deep collections are nested by a fixed limit.
-/

namespace Registrar.Yaml

open Document

/-! ## Readers -/

/-- What a reader knows of the document: the nodes with anchors, how often aliases may be followed,
and how many collections may still be nested. -/
structure Setting where
  anchors : List (Nat × Node)
  jumpLimit : Nat
  depth : Nat

/-- Reads an `α` from a node, given how often aliases were followed before. -/
def Reader (α : Type) := Setting → Node → Nat → Option (α × Nat)

namespace Reader

instance : Monad Reader where
  pure a := fun _ _ jumps => some (a, jumps)
  bind r f := fun s n jumps => (r s n jumps).bind fun (a, jumps) => f a s n jumps

/-- How deep collections may be nested. -/
def depthLimit : Nat := 128

/-- The node without its anchor. -/
def bare : Node → Node
  | .anchored _ n => bare n
  | n => n

/-- Reads what an alias stands for instead of the alias. -/
def resolved {α : Type} (read : Node → Setting → Nat → Option (α × Nat)) : Reader α :=
  fun s n jumps => match n with
    | .aliasOf id =>
      if s.jumpLimit ≤ jumps then none
      -- of two nodes with one number the later one counts
      else match s.anchors.reverse.lookup id with
        | some n => read (bare n) s (jumps + 1)
        | none => none
    | n => read (bare n) s jumps

/-- Reads inside a collection. -/
def nested {α : Type} (s : Setting) (read : Setting → Option α) : Option α :=
  if s.depth = 0 then none else read { s with depth := s.depth - 1 }

/-- Whether nothing is written here. -/
def isNothing : Node → Bool
  | .scalar _ style text => style = .plain && text.isEmpty
  | _ => false

/-- Reads all nodes of a list. -/
def all {α : Type} (read : Reader α) (s : Setting) : List Node → Nat → Option (List α × Nat)
  | [], jumps => some ([], jumps)
  | n :: rest, jumps => do
    let (a, jumps) ← read s n jumps
    let (as, jumps) ← all read s rest jumps
    return (a :: as, jumps)

/-- Reads all keys and values of a list of entries. -/
def pairs {κ α : Type} (key : Reader κ) (read : Reader α) (s : Setting) :
    List (Node × Node) → Nat → Option (List (κ × α) × Nat)
  | [], jumps => some ([], jumps)
  | (k, v) :: rest, jumps => do
    let (k, jumps) ← key s k jumps
    let (v, jumps) ← read s v jumps
    let (more, jumps) ← pairs key read s rest jumps
    return ((k, v) :: more, jumps)

/-! ## Scalars -/

/-- Reads a string: the text of any scalar. -/
def text : Reader String := resolved fun n _ jumps =>
  match n with
  | .scalar _ _ t => some (t, jumps)
  | _ => none

/-- The tag of the scalar types that YAML defines. -/
def coreTag (name : String) : String := "tag:yaml.org,2002:" ++ name

/-- Reads a truth value, which is plain, or a literal block with the tag for it. -/
def flag : Reader Bool := resolved fun n _ jumps =>
  match n with
  | .scalar tag style t =>
    if style = .plain || (style = .literal && tag = some (coreTag "bool")) then
      (boolOf? t).map (·, jumps)
    else none
  | _ => none

/-- The value of a number of any size, if 64 bits hold it. -/
def intValue? (i : Int) : Option Value := if h : IsWord i then some (.number (.int i h)) else none

/-- The value of a plain scalar without a tag. -/
def plainValue? (t : String) : Option Value :=
  match Plain.of t with
  | .null | .notFinite => some .null
  | .bool b => some (.bool b)
  | .int i => intValue? i
  | .double d => some (.number (.double d))
  | .text => some (.string t)

/-- The value of a scalar. A tag that YAML defines says of which type it is; a local tag makes it a
value of some type that is not known here. -/
def scalarValue? (tag : Option String) (style : Style) (t : String) : Option Value :=
  match tag with
  | none => if style = .plain then plainValue? t else some (.string t)
  | some tag =>
    if tag.startsWith "!" then none
    else if tag = coreTag "bool" then (boolOf? t).map .bool
    else if tag = coreTag "int" then (intOf? t.toList).bind intValue?
    else if tag = coreTag "float" then
      if notFiniteWords.contains t then some .null
      else (doubleOf? t.toList).map fun d => .number (.double d)
    else if tag = coreTag "null" then (if nullWords.contains t then some .null else none)
    else some (.string t)

/-! ## Values -/

/-- Whether a collection with the tag is a value. -/
def isPlainTag (tag : Option String) : Bool := !tag.any (·.startsWith "!")

/-- Reads any value; the number bounds the nesting. -/
def valueWithin : Nat → Reader Value
  | 0 => resolved fun n _ jumps =>
    match n with
    | .scalar tag style t => (scalarValue? tag style t).map (·, jumps)
    | _ => none
  | depth + 1 => resolved fun n s jumps =>
    match n with
    | .scalar tag style t => (scalarValue? tag style t).map (·, jumps)
    | .sequence tag items =>
      if isPlainTag tag then
        (nested s fun s => all (valueWithin depth) s items jumps).map fun (vs, jumps) =>
          (.array vs, jumps)
      else none
    | .mapping tag entries =>
      if isPlainTag tag then
        (nested s fun s => pairs text (valueWithin depth) s entries jumps).map fun (ms, jumps) =>
          (.ofMembers ms, jumps)
      else none
    | _ => none

/-- Reads an integer from `low` to `high`. -/
def integer (low high : Int) : Reader Int := resolved fun n _ jumps =>
  match n with
  | .scalar _ style t =>
    if style ≠ .plain then none
    else (intOf? t.toList).bind fun i => if low ≤ i ∧ i ≤ high then some (i, jumps) else none
  | _ => none

/-- Reads a word of a fixed set. -/
def word {α : Type} (w : Words α) : Reader α := fun s n jumps =>
  (text s n jumps).bind fun (t, jumps) => (w.find? t).map (·, jumps)

/-! ## Collections and records -/

/-- Whether something is there: no null, and not nothing. -/
def isPresent? (n : Node) : Option Bool :=
  match n with
  | .scalar (some tag) .plain t =>
    if tag = coreTag "null" then (if nullWords.contains t then some false else none)
    else some true
  | .scalar none .plain t => some (!t.isEmpty && !nullWords.contains t)
  | _ => some true

/-- Reads what may be absent. -/
def optional {α : Type} (read : Reader α) : Reader (Option α) := resolved fun n s jumps =>
  (isPresent? n).bind fun present =>
    if present then (read s n jumps).map fun (a, jumps) => (some a, jumps) else some (none, jumps)

/-- Reads a list. -/
def list {α : Type} (read : Reader α) : Reader (List α) := resolved fun n s jumps =>
  match n with
  | .sequence _ items => nested s fun s => all read s items jumps
  | n => if isNothing n then some ([], jumps) else none

/-- Reads a dictionary. -/
def dict {α : Type} (read : Reader α) : Reader (Dict α) := resolved fun n s jumps =>
  match n with
  | .mapping _ entries =>
    (nested s fun s => pairs text read s entries jumps).map fun (es, jumps) =>
      (Dict.ofList es, jumps)
  | n => if isNothing n then some (∅, jumps) else none

/-- Reads the entries of a mapping into a record, of which the members in `seen` are read. Entries
under other names are passed over. -/
def members {α : Type} (shape : Shape Reader α) (s : Setting) :
    List (Node × Node) → α → List String → Nat → Option (α × Nat)
  | [], a, seen, jumps =>
    if shape.slots.all fun slot => !slot.required || seen.contains slot.name then some (a, jumps)
    else none
  | (k, v) :: rest, a, seen, jumps => do
    let (key, jumps) ← text s k jumps
    match shape.slots.find? (·.answers key) with
    | none => members shape s rest a seen jumps
    | some slot =>
      if seen.contains slot.name then none
      else
        let (a, jumps) ← slot.read a s v jumps
        members shape s rest a (slot.name :: seen) jumps

/-- Reads a record. -/
def record {α : Type} (shape : Shape Reader α) : Reader α := resolved fun n s jumps =>
  match n with
  | .mapping _ entries => nested s fun s => members shape s entries shape.start [] jumps
  | _ => none

instance : Form Reader where
  text := text
  flag := flag
  value := valueWithin depthLimit
  natural := (·.toNat) <$> integer 0 0xFFFFFFFFFFFFFFFF
  rank := integer (-0x80000000) 0x7FFFFFFF
  word := word
  optional := optional
  list := list
  dict := dict
  record := record

end Reader

/-! ## Documents -/

/-- Reads the single document of a text. -/
def read? {α : Type} (r : Reader α) (text : String) : Option α := do
  let root ← Node.ofText? text
  let setting : Setting := ⟨root.anchors, 100 * root.size, Reader.depthLimit⟩
  let (a, _) ← r setting root 0
  return a

end Registrar.Yaml
