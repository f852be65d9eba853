import Registrar.Value

/-!
# Shapes of records

A record of a document has named members. Its shape says once, for every format, which members
there are, how each is read and how it is written. A `Form` is a format to read from: `m α` reads an
`α`. A `Codec` pairs a reading with a writing, and `Shape.write` and `Form.record` are the writing
and the reading of whole records.
-/

namespace Registrar.Document

/-- A member of the records `α`, read by readers `m`. -/
structure Slot (m : Type → Type) (α : Type) where
  name : String
  /-- Other names under which the member is read. -/
  aliases : List String
  /-- Whether a record without the member is refused. -/
  required : Bool
  /-- Reads the member into a record. -/
  read : α → m α
  /-- The member's value in a record, if it is to be written. -/
  write : α → Option Value

/-- Whether the member goes by the name. -/
def Slot.answers {m : Type → Type} {α : Type} (s : Slot m α) (name : String) : Bool :=
  s.name = name || s.aliases.contains name

/-- The records `α`: the type's name for messages, the record with no member read, and its members
in the order in which they are written. -/
structure Shape (m : Type → Type) (α : Type) where
  title : String
  start : α
  slots : List (Slot m α)

/-- The members of a record that are to be written. -/
def Shape.write {m : Type → Type} {α : Type} (s : Shape m α) (a : α) : Value :=
  .object (s.slots.filterMap fun slot => (slot.write a).map (slot.name, ·))

/-- Words of a fixed set: how each is spelt, aliases last, and how many are no aliases. -/
structure Words (α : Type) where
  spellings : List (String × α)
  canonical : Nat

/-- The word with the spelling. -/
def Words.find? {α : Type} (w : Words α) (s : String) : Option α := w.spellings.lookup s

/-- A format whose readers are `m`. -/
class Form (m : Type → Type) extends Monad m where
  text : m String
  flag : m Bool
  value : m Value
  /-- A natural number of 64 bits. -/
  natural : m Nat
  /-- An integer of 32 bits. -/
  rank : m Int
  word {α : Type} : Words α → m α
  /-- Null is absent. -/
  optional {α : Type} : m α → m (Option α)
  list {α : Type} : m α → m (List α)
  dict {α : Type} : m α → m (Dict α)
  record {α : Type} : Shape m α → m α

/-- A reading and a writing of the values `α`. -/
structure Codec (m : Type → Type) (α : Type) where
  read : m α
  write : α → Value

namespace Codec

variable {m : Type → Type} [Form m] {α β : Type}

/-! ## Codecs of values -/

/-- A string. -/
def text : Codec m String := ⟨Form.text, .string⟩

/-- A truth value. -/
def flag : Codec m Bool := ⟨Form.flag, .bool⟩

/-- Any value. -/
def value : Codec m Value := ⟨Form.value, id⟩

/-- A natural number, as far as 64 bits hold it. -/
def natural : Codec m Nat := ⟨Form.natural, fun n => ((Number.ofNat? n).map .number).getD .null⟩

/-- An integer of 32 bits. -/
def rank : Codec m Int :=
  ⟨Form.rank, fun i => if h : IsWord i then .number (.int i h) else .null⟩

/-- A word of a fixed set. -/
def word (w : Words α) (write : α → String) : Codec m α := ⟨Form.word w, fun a => .string (write a)⟩

/-- A list. -/
def list (c : Codec m α) : Codec m (List α) := ⟨Form.list c.read, fun l => .array (l.map c.write)⟩

/-- A dictionary. -/
def dict (c : Codec m α) : Codec m (Dict α) := ⟨Form.dict c.read, fun d => .ofDict (d.map c.write)⟩

/-- A record. -/
def record (s : Shape m α) : Codec m α := ⟨Form.record s, s.write⟩

/-! ## Members -/

/-- A member that every record must have. -/
def required (name : String) (c : Codec m β) (get : α → β) (put : α → β → α) : Slot m α where
  name := name
  aliases := []
  required := true
  read a := put a <$> c.read
  write a := some (c.write (get a))

/-- A member that keeps the value of the start record where it is missing, and is always written. -/
def always (name : String) (c : Codec m β) (get : α → β) (put : α → β → α) : Slot m α where
  name := name
  aliases := []
  required := false
  read a := put a <$> c.read
  write a := some (c.write (get a))

/-- A member that may be absent or null. -/
def optional (name : String) (c : Codec m β) (get : α → Option β) (put : α → Option β → α) :
    Slot m α where
  name := name
  aliases := []
  required := false
  read a := put a <$> Form.optional c.read
  write a := (get a).map c.write

/-- A list that is not written where it is empty. -/
def unlessEmpty (name : String) (c : Codec m β) (get : α → List β) (put : α → List β → α) :
    Slot m α where
  name := name
  aliases := []
  required := false
  read a := put a <$> Form.list c.read
  write a := if (get a).isEmpty then none else some (c.list.write (get a))

end Codec

/-- The member under other names too. -/
def Slot.alsoNamed {m : Type → Type} {α : Type} (s : Slot m α) (names : List String) : Slot m α :=
  { s with aliases := names }

end Registrar.Document
