import Registrar.Document.Shape
import Registrar.Json.Cursor

/-!
# Reading JSON documents

JSON is read in one pass, straight into the values asked for, so the first fault in reading order
counts: a member of the wrong type is reported before a flaw of the text after it. A reader knows
how many containers it may still enter. Records may also be written as arrays of their members, in
order; members that nobody knows are passed over.
-/

namespace Registrar.Json

open Document

/-- Reads a value, where it may enter as many containers as the number says, less one. -/
def Reader (α : Type) := Nat → Cursor → Except Fault (α × Cursor)

instance : Monad Reader where
  pure a := fun _ c => .ok (a, c)
  bind r f := fun depth c => match r depth c with
    | .ok (a, c) => f a depth c
    | .error e => .error e

/-! ## Values of the wrong type -/

/-- The fault where the value at the cursor is not what was expected. The value's own flaws come
first; a container counts as wrong before its contents are looked at. -/
def wrongType (expected : String) (c : Cursor) : Fault :=
  let found := fun (f : Found) (after : Except Fault Cursor) => match after with
    | .ok c => c.mismatch (.type f expected)
    | .error e => e
  match c.rest with
  | 'n' :: _ => found .null ((readWord ['u', 'l', 'l'] (c.past 1)).map (·.2))
  | 't' :: _ => found (.bool true) ((readWord ['r', 'u', 'e'] (c.past 1)).map (·.2))
  | 'f' :: _ => found (.bool false) ((readWord ['a', 'l', 's', 'e'] (c.past 1)).map (·.2))
  | '"' :: _ => match readString (c.past 1) with
    | .ok (s, c) => c.mismatch (.type (.string s) expected)
    | .error e => e
  | '[' :: _ => c.mismatch (.type .list expected)
  | '\x7b' :: _ => c.mismatch (.type .object expected)
  | [] => c.fault .endInValue
  | d :: _ =>
    if d = '-' ∨ d.isDigit then match readNumber c with
      | .ok (n, c) => c.mismatch (.type (.number n) expected)
      | .error e => e
    else c.faultNext .noValue

/-! ## Scalars -/

/-- Reads a string. -/
def text : Reader String := fun _ c =>
  let c := c.skipSpace
  match c.rest with
  | '"' :: _ => readString (c.past 1)
  | _ => .error (wrongType "a string" c)

/-- Reads a truth value. -/
def flag : Reader Bool := fun _ c =>
  let c := c.skipSpace
  match c.rest with
  | 't' :: _ => (readWord ['r', 'u', 'e'] (c.past 1)).map fun (_, c) => (true, c)
  | 'f' :: _ => (readWord ['a', 'l', 's', 'e'] (c.past 1)).map fun (_, c) => (false, c)
  | _ => .error (wrongType "a boolean" c)

/-- Reads an integer from `low` to `high`. -/
def integer (expected : String) (low high : Int) : Reader Int := fun _ c =>
  let c := c.skipSpace
  match c.rest with
  | d :: _ =>
    if d = '-' ∨ d.isDigit then match readNumber c with
      | .error e => .error e
      | .ok (.int i h, c) =>
        if low ≤ i ∧ i ≤ high then .ok (i, c)
        else .error (c.mismatch (.range (.number (.int i h)) expected))
      | .ok (n, c) => .error (c.mismatch (.type (.number n) expected))
    else .error (wrongType expected c)
  | [] => .error (wrongType expected c)

/-- Reads a null where there is one, and otherwise a value. -/
def optional {α : Type} (r : Reader α) : Reader (Option α) := fun depth c =>
  let c := c.skipSpace
  match c.rest with
  | 'n' :: _ => (readWord ['u', 'l', 'l'] (c.past 1)).map fun (_, c) => (none, c)
  | _ => (r depth c).map fun (a, c) => (some a, c)

/-! ## Arrays -/

/-- Goes on to the next item of an array: to its start, or to the closing bracket. -/
def nextItem (first : Bool) (c : Cursor) : Except Fault (Bool × Cursor) :=
  let c := c.skipSpace
  match c.rest with
  | [] => .error (c.fault .endInList)
  | ']' :: _ => .ok (false, c)
  | d :: _ =>
    if first then .ok (true, c)
    else if d = ',' then
      let c := (c.past 1).skipSpace
      match c.rest with
      | [] => .error (c.fault .endInValue)
      | ']' :: _ => .error (c.faultNext .trailingComma)
      | _ => .ok (true, c)
    else .error (c.faultNext .noListEnd)

/-- Reads items up to and with the closing bracket. Each round reads at least one character. -/
def readItems {α : Type} (item : Cursor → Step α) : Nat → Bool → Cursor → Step (List α)
  | 0, _, c => .error (c.fault .endInList)
  | n + 1, first, c =>
    match nextItem first c with
    | .error e => .error e
    | .ok (false, c) => .ok ([], c.past 1)
    | .ok (true, c) =>
      match item c with
      | .error e => .error e
      | .ok (a, c) => (readItems item n false c).map fun (as, c) => (a :: as, c)

/-- Enters a container, unless the limit of nesting is reached. -/
def enter {α : Type} (depth : Nat) (c : Cursor) (inside : Nat → Cursor → Step α) : Step α :=
  match depth with
  | d + 2 => inside (d + 1) (c.past 1)
  | _ => .error (c.faultNext .tooDeep)

/-- Reads an array of items. -/
def list {α : Type} (r : Reader α) : Reader (List α) := fun depth c =>
  let c := c.skipSpace
  match c.rest with
  | '[' :: _ => enter depth c fun depth c => readItems (r depth) (c.rest.length + 1) true c
  | _ => .error (wrongType "a sequence" c)

/-! ## Objects -/

/-- Goes on to the next member of an object: to the start of its key, or to the closing brace. -/
def nextKey (first : Bool) (c : Cursor) : Except Fault (Bool × Cursor) :=
  let c := c.skipSpace
  match c.rest with
  | [] => .error (c.fault .endInObject)
  | '\x7d' :: _ => .ok (false, c)
  | d :: _ =>
    if first then
      if d = '"' then .ok (true, c) else .error (c.faultNext .keyNotString)
    else if d = ',' then
      let c := (c.past 1).skipSpace
      match c.rest with
      | [] => .error (c.fault .endInValue)
      | '"' :: _ => .ok (true, c)
      | '\x7d' :: _ => .error (c.faultNext .trailingComma)
      | _ => .error (c.faultNext .keyNotString)
    else .error (c.faultNext .noObjectEnd)

/-- Goes on past the colon after a key. -/
def readColon (c : Cursor) : Except Fault Cursor :=
  let c := c.skipSpace
  match c.rest with
  | [] => .error (c.fault .endInObject)
  | ':' :: _ => .ok (c.past 1)
  | _ => .error (c.faultNext .noColon)

/-- Reads members up to and with the closing brace, each with what was read before it. Each round
reads at least one character. -/
def readMembers {β : Type} (member : β → String → Cursor → Step β) :
    Nat → Bool → β → Cursor → Step β
  | 0, _, _, c => .error (c.fault .endInObject)
  | n + 1, first, b, c =>
    match nextKey first c with
    | .error e => .error e
    | .ok (false, c) => .ok (b, c.past 1)
    | .ok (true, c) =>
      match readString (c.past 1) with
      | .error e => .error e
      | .ok (key, c) =>
        match member b key c with
        | .error e => .error e
        | .ok (b, c) => readMembers member n false b c

/-- Reads the value of a member, with the colon before it. -/
def readMember {α : Type} (item : Cursor → Step α) (c : Cursor) : Step α :=
  match readColon c with
  | .error e => .error e
  | .ok c => item c

/-- Reads an object whose members have values of one type. The last of two with one key counts. -/
def dict {α : Type} (r : Reader α) : Reader (Dict α) := fun depth c =>
  let c := c.skipSpace
  match c.rest with
  | '\x7b' :: _ => enter depth c fun depth c =>
    readMembers (fun d key c => (readMember (r depth) c).map fun (a, c) => (d.insert key a, c))
      (c.rest.length + 1) true ∅ c
  | _ => .error (wrongType "a map" c)

/-! ## Any value -/

/-- Reads any value inside at most `depth` containers, less one. -/
def readValue : Nat → Cursor → Step Value
  | depth, c =>
    let c := c.skipSpace
    match c.rest with
    | [] => .error (c.fault .endInValue)
    | 'n' :: _ => (readWord ['u', 'l', 'l'] (c.past 1)).map fun (_, c) => (.null, c)
    | 't' :: _ => (readWord ['r', 'u', 'e'] (c.past 1)).map fun (_, c) => (.bool true, c)
    | 'f' :: _ => (readWord ['a', 'l', 's', 'e'] (c.past 1)).map fun (_, c) => (.bool false, c)
    | '"' :: _ => (readString (c.past 1)).map fun (s, c) => (.string s, c)
    | '[' :: _ =>
      match depth with
      | d + 2 =>
        (readItems (readValue (d + 1)) c.rest.length true (c.past 1)).map fun (xs, c) =>
          (.array xs, c)
      | _ => .error (c.faultNext .tooDeep)
    | '\x7b' :: _ =>
      match depth with
      | d + 2 =>
        (readMembers (fun members key c =>
            (readMember (readValue (d + 1)) c).map fun (x, c) => ((key, x) :: members, c))
          c.rest.length true [] (c.past 1)).map fun (members, c) =>
            (.ofMembers members.reverse, c)
      | _ => .error (c.faultNext .tooDeep)
    | d :: _ =>
      if d = '-' ∨ d.isDigit then (readNumber c).map fun (n, c) => (.number n, c)
      else .error (c.faultNext .noValue)

/-! ## Words -/

/-- Reads a null, where nothing else is expected. -/
def unit : Reader Unit := fun _ c =>
  let c := c.skipSpace
  match c.rest with
  | 'n' :: _ => readWord ['u', 'l', 'l'] (c.past 1)
  | _ => .error (wrongType "unit" c)

/-- Finds the word with a spelling that was read up to the cursor. -/
def findWord {α : Type} (w : Words α) (s : String) (c : Cursor) : Step α :=
  match w.find? s with
  | some a => .ok (a, c)
  | none =>
    .error (c.mismatch (.unknownWord s ((w.spellings.take w.canonical).map (·.1))))

/-- Reads the word that an object names as its only member, after the opening brace. -/
def wordObject {α : Type} (w : Words α) (depth : Nat) (c : Cursor) :
    Except Fault (α × Cursor) := do
  let c := c.skipSpace
  let (s, c) ← match c.rest with
    | '"' :: _ => readString (c.past 1)
    | _ => .error (wrongType "variant identifier" c)
  let (a, c) ← findWord w s c
  let (_, c) ← readMember (unit depth) c
  let c := c.skipSpace
  match c.rest with
  | [] => .error (c.fault .endInObject)
  | '\x7d' :: _ => .ok (a, c.past 1)
  | _ => .error (c.fault .noValue)

/-- Reads a word of a fixed set: a string, or an object whose only member has its name and is
null. -/
def word {α : Type} (w : Words α) : Reader α := fun depth c =>
  let c := c.skipSpace
  match c.rest with
  | [] => .error (c.fault .endInValue)
  | '"' :: _ =>
    match readString (c.past 1) with
    | .error e => .error e
    | .ok (s, c) => findWord w s c
  | '\x7b' :: _ => enter depth c (wordObject w)
  | _ => .error (c.faultNext .noValue)

/-! ## Records -/

/-- The place of a mismatch that is found after a key: past the blanks, and past a brace that closes
the object there. -/
def afterKey (c : Cursor) : Cursor :=
  let c := c.skipSpace
  match c.rest with
  | '\x7d' :: _ => c.past 1
  | _ => c

/-- Reads the member with a key into a record, of which the members in `seen` are read already. -/
def recordMember {α : Type} (s : Shape Reader α) (depth : Nat) (state : α × List String)
    (key : String) (c : Cursor) : Step (α × List String) :=
  let (a, seen) := state
  match s.slots.find? (·.answers key) with
  | some slot =>
    if seen.contains slot.name then .error ((afterKey c).mismatch (.repeated slot.name))
    else (readMember (slot.read a depth) c).map fun (a, c) => ((a, slot.name :: seen), c)
  | none => (readMember (fun c => (skip c).map ((), ·)) c).map fun (_, c) => (state, c)

/-- Reads a record written as an object, after its opening brace. -/
def recordObject {α : Type} (s : Shape Reader α) (depth : Nat) (c : Cursor) : Step α :=
  match readMembers (recordMember s depth) (c.rest.length + 1) true (s.start, []) c with
  | .error e => .error e
  | .ok ((a, seen), c) =>
    match s.slots.find? fun slot => slot.required && !seen.contains slot.name with
    | some slot => .error (c.mismatch (.missing slot.name))
    | none => .ok (a, c)

/-- Goes on past the bracket that closes a record whose members are all read. -/
def closeItems (c : Cursor) : Except Fault Cursor :=
  let c := c.skipSpace
  match c.rest with
  | [] => .error (c.fault .endInList)
  | ']' :: _ => .ok (c.past 1)
  | ',' :: _ =>
    let c := (c.past 1).skipSpace
    match c.rest with
    | ']' :: _ => .error (c.faultNext .trailingComma)
    | _ => .error (c.faultNext .trailingCharacters)
  | _ => .error (c.faultNext .trailingCharacters)

/-- Reads the members of a record written as an array, from the `index`-th on. -/
def recordItems {α : Type} (title : String) (members depth : Nat) :
    Nat → α → List (Slot Reader α) → Cursor → Step α
  | _, a, [], c => (closeItems c).map (a, ·)
  | index, a, slot :: slots, c =>
    match nextItem (index == 0) c with
    | .error e => .error e
    | .ok (false, c) =>
      match (slot :: slots).findIdx? (·.required) with
      | some i => .error ((c.past 1).mismatch (.length (index + i) title members))
      | none => .ok (a, c.past 1)
    | .ok (true, c) =>
      match slot.read a depth c with
      | .error e => .error e
      | .ok (a, c) => recordItems title members depth (index + 1) a slots c

/-- Reads a record. -/
def record {α : Type} (s : Shape Reader α) : Reader α := fun depth c =>
  let c := c.skipSpace
  match c.rest with
  | '\x7b' :: _ => enter depth c (recordObject s)
  | '[' :: _ => enter depth c fun depth c =>
    recordItems s.title s.slots.length depth 0 s.start s.slots c
  | _ => .error (wrongType ("struct " ++ s.title) c)

instance : Form Reader where
  text := text
  flag := flag
  value := readValue
  natural := (·.toNat) <$> integer "usize" 0 0xFFFFFFFFFFFFFFFF
  rank := integer "i32" (-0x80000000) 0x7FFFFFFF
  word := word
  optional := optional
  list := list
  dict := dict
  record := record

/-! ## Documents -/

/-- How many containers may be nested, and one more. -/
def depthLimit : Nat := 128

/-- Reads a whole document. -/
def read {α : Type} (r : Reader α) (s : String) : Except Fault α :=
  match r depthLimit (.start s) with
  | .error e => .error e
  | .ok (a, c) =>
    let c := c.skipSpace
    if c.rest.isEmpty then .ok a else .error (c.faultNext .trailingCharacters)

end Registrar.Json
