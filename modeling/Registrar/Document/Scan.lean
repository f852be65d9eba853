import Registrar.Document.Shape

/-!
# Reading from values

Records can be read from a value that is there already, by the rules of JSON: a record is an object,
or an array of its members in order. Whether a value has the right shape is all that is asked, so a
reader says nothing about why it has not.
-/

namespace Registrar.Document

/-- Reads an `α` from a value that has the right shape. -/
def Scan (α : Type) := Value → Option α

namespace Scan

instance : Monad Scan where
  pure a := fun _ => some a
  bind r f := fun v => (r v).bind fun a => f a v

/-- Reads an integer from `low` to `high`. -/
def integer (low high : Int) : Scan Int
  | .number (.int i _) => if low ≤ i ∧ i ≤ high then some i else none
  | _ => none

/-- Reads a word of a fixed set: a string, or an object whose only member has its name and is
null. -/
def word {α : Type} (w : Words α) : Scan α
  | .string s => w.find? s
  | .object [(s, .null)] => w.find? s
  | _ => none

/-- Reads the members of an object into a record, of which those in `seen` are read already. -/
def members {α : Type} (s : Shape Scan α) : List (String × Value) → α → List String → Option α
  | [], a, seen => if s.slots.all fun slot => !slot.required || seen.contains slot.name then some a
    else none
  | (key, v) :: rest, a, seen =>
    match s.slots.find? (·.answers key) with
    | none => members s rest a seen
    | some slot =>
      if seen.contains slot.name then none
      else (slot.read a v).bind fun a => members s rest a (slot.name :: seen)

/-- Reads the items of an array into a record, in the order of its members. -/
def items {α : Type} : List (Slot Scan α) → List Value → α → Option α
  | slots, [], a => if slots.any (·.required) then none else some a
  | [], _ :: _, _ => none
  | slot :: slots, v :: rest, a => (slot.read a v).bind (items slots rest)

/-- Reads a record. -/
def record {α : Type} (s : Shape Scan α) : Scan α
  | .object ms => members s ms s.start []
  | .array xs => items s.slots xs s.start
  | _ => none

instance : Form Scan where
  text := Value.text?
  flag := fun v => match v with | .bool b => some b | _ => none
  value := some
  natural := (·.toNat) <$> integer 0 0xFFFFFFFFFFFFFFFF
  rank := integer (-0x80000000) 0x7FFFFFFF
  word := word
  optional r := fun v => match v with | .null => some none | _ => (r v).map some
  list r := fun v => v.items?.bind fun xs => xs.mapM r
  dict r := fun v => match v with
    | .object ms => (ms.mapM fun e => (r e.2).map (e.1, ·)).map Dict.ofList
    | _ => none
  record := record

end Scan

/-- Reads a record from a value. -/
def Shape.read? {α : Type} (s : Shape Scan α) (v : Value) : Option α := Scan.record s v

end Registrar.Document
