import Registrar.Text.Category
import Registrar.Value

/-!
# Faults of JSON documents

What can be wrong with a JSON document: the text itself (`Flaw`), or the shape of the values in it
(`Mismatch`). A fault is found at a place, which is given as the number of bytes before it; its
message counts lines from 1 and the bytes of the line up to the place.
-/

namespace Registrar.Json

open Text

/-! ## Causes -/

/-- What is wrong with the text of a document. -/
inductive Flaw
  | endInList | endInObject | endInString | endInValue
  | noColon | noListEnd | noObjectEnd | noWord | noValue
  | badEscape | badNumber | numberRange | controlCharacter | keyNotString
  | loneSurrogate | trailingComma | trailingCharacters | endOfEscape | tooDeep
  deriving DecidableEq, Repr

/-- The message about a flaw. -/
def Flaw.message : Flaw → String
  | endInList => "EOF while parsing a list"
  | endInObject => "EOF while parsing an object"
  | endInString => "EOF while parsing a string"
  | endInValue => "EOF while parsing a value"
  | noColon => "expected `:`"
  | noListEnd => "expected `,` or `]`"
  | noObjectEnd => "expected `,` or `\x7d`"
  | noWord => "expected ident"
  | noValue => "expected value"
  | badEscape => "invalid escape"
  | badNumber => "invalid number"
  | numberRange => "number out of range"
  | controlCharacter => "control character (\\u0000-\\u001F) found while parsing a string"
  | keyNotString => "key must be a string"
  | loneSurrogate => "lone leading surrogate in hex escape"
  | trailingComma => "trailing comma"
  | trailingCharacters => "trailing characters"
  | endOfEscape => "unexpected end of hex escape"
  | tooDeep => "recursion limit exceeded"

/-- What a document has where a record of another shape was expected. -/
inductive Found
  | null
  | bool (b : Bool)
  | number (n : Number)
  | string (s : String)
  | list
  | object
  deriving DecidableEq

/-- The words of messages for what was found. -/
def Found.text : Found → String
  | null => "null"
  | bool b => s!"boolean `{b}`"
  | number (.int i _) => s!"integer `{i}`"
  | number (.double d) => s!"floating point `{d.text .json}`"
  | string s => s!"string {shown s}"
  | list => "sequence"
  | object => "map"

/-- How a value differs from the shape it should have. -/
inductive Mismatch
  | type (found : Found) (expected : String)
  | range (found : Found) (expected : String)
  | unknownWord (word : String) (expected : List String)
  | missing (name : String)
  | repeated (name : String)
  | length (count : Nat) (title : String) (members : Nat)
  deriving DecidableEq

/-- A choice of words, as messages give it. -/
def choice : List String → String
  | [] => "no variants"
  | [a] => s!"`{a}`"
  | [a, b] => s!"`{a}` or `{b}`"
  | words => "one of " ++ ", ".intercalate (words.map fun w => s!"`{w}`")

/-- The message about a mismatch. -/
def Mismatch.message : Mismatch → String
  | type found expected => s!"invalid type: {found.text}, expected {expected}"
  | range found expected => s!"invalid value: {found.text}, expected {expected}"
  | unknownWord word expected => s!"unknown variant `{word}`, expected {choice expected}"
  | missing name => s!"missing field `{name}`"
  | repeated name => s!"duplicate field `{name}`"
  | length count title members =>
    let noun := if members = 1 then "element" else "elements"
    s!"invalid length {count}, expected struct {title} with {members} {noun}"

/-- Why a document is refused. -/
inductive Cause
  | flaw (f : Flaw)
  | mismatch (m : Mismatch)
  deriving DecidableEq

/-- The message about a cause. -/
def Cause.message : Cause → String
  | flaw f => f.message
  | mismatch m => m.message

/-! ## Places -/

/-- Why a document is refused, and the number of bytes before the place where that shows. -/
structure Fault where
  cause : Cause
  offset : Nat
  deriving DecidableEq

/-- The line and the column after some more bytes of a text that begins at the given ones. -/
def placeFrom (line column : Nat) : List Char → Nat → Nat × Nat
  | [], _ => (line, column)
  | c :: cs, bytes =>
    if bytes = 0 then (line, column)
    else if c = '\n' then placeFrom (line + 1) 0 cs (bytes - 1)
    else if bytes < c.utf8Size then (line, column + bytes)
    else placeFrom line (column + c.utf8Size) cs (bytes - c.utf8Size)

/-- The line and the column of a fault in the text. -/
def Fault.place (f : Fault) (text : String) : Nat × Nat := placeFrom 1 0 text.toList f.offset

/-- The message about a fault in the text. -/
def Fault.message (f : Fault) (text : String) : String :=
  let (line, column) := f.place text
  s!"{f.cause.message} at line {line} column {column}"

end Registrar.Json
