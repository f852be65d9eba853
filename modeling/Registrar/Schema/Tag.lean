import Registrar.Text.Blank
import Registrar.Text.Case

/-!
# Tags

The fixed words of declarations: types of fields, kinds of constraints and transports. Each set of
words has a canonical spelling (`tag`) and a reading that forgives blanks around the word
(`ofTag?`); transports also forgive the case of letters. A document that names a tag directly, as a
claim does, must spell it exactly: `ofName?` allows the canonical spelling and the aliases only.
-/

namespace Registrar

open Text

/-! ## Types of fields -/

/-- The types a field can have. -/
inductive FieldType
  | string | int | float | bool | timestamp | duration | json | bytes | email | url | uuid
  | enum | ref | secret | strings | ints
  deriving DecidableEq, Repr

namespace FieldType

/-- The types in the order of their definition. -/
def all : List FieldType :=
  [string, int, float, bool, timestamp, duration, json, bytes, email, url, uuid, enum, ref,
    secret, strings, ints]

/-- The canonical spelling. -/
def tag : FieldType → String
  | string => "string"
  | int => "int"
  | float => "float"
  | bool => "bool"
  | timestamp => "timestamp"
  | duration => "duration"
  | json => "json"
  | bytes => "bytes"
  | email => "email"
  | url => "url"
  | uuid => "uuid"
  | enum => "enum"
  | ref => "ref"
  | secret => "secret"
  | strings => "string[]"
  | ints => "int[]"

/-- The type with this spelling or alias. -/
def ofName? (s : String) : Option FieldType :=
  if s = "strings" then some strings
  else if s = "ints" then some ints
  else all.find? (·.tag = s)

/-- The type a tag names, blanks around it aside. -/
def ofTag? (s : String) : Option FieldType := ofName? (trim s)

/-- Whether values of the type are carried as strings. -/
def isStringLike : FieldType → Bool
  | string | email | url | uuid | secret => true
  | _ => false

end FieldType

/-! ## Kinds of constraints -/

/-- The constraints a field can declare. -/
inductive ConstraintKind
  | min | max | minLength | maxLength | pattern | notEmpty | oneOf
  /-- A reference must exist: judged where the data are stored, so never violated here. -/
  | refExists
  deriving DecidableEq, Repr

namespace ConstraintKind

/-- The kinds in the order of their definition. -/
def all : List ConstraintKind :=
  [min, max, minLength, maxLength, pattern, notEmpty, oneOf, refExists]

/-- The canonical spelling. -/
def tag : ConstraintKind → String
  | min => "min"
  | max => "max"
  | minLength => "min_length"
  | maxLength => "max_length"
  | pattern => "pattern"
  | notEmpty => "not_empty"
  | oneOf => "one_of"
  | refExists => "ref_exists"

/-- The kind with this spelling. -/
def ofName? (s : String) : Option ConstraintKind := all.find? (·.tag = s)

/-- The kind a tag names, blanks around it aside. -/
def ofTag? (s : String) : Option ConstraintKind := ofName? (trim s)

end ConstraintKind

/-! ## Transports -/

/-- The kinds of address a module can claim. -/
inductive Transport
  | http | cli | ws | webhook | grpc
  deriving DecidableEq, Repr

namespace Transport

/-- The transports in order. -/
def all : List Transport := [http, cli, ws, webhook, grpc]

/-- The canonical spelling, with which keys of claims begin. -/
def tag : Transport → String
  | http => "http"
  | cli => "cli"
  | ws => "ws"
  | webhook => "webhook"
  | grpc => "grpc"

/-- The transport with this spelling or alias. -/
def ofName? (s : String) : Option Transport :=
  if s = "websocket" then some ws else all.find? (·.tag = s)

/-- The transport a tag names in any case of letters, blanks around it aside. A terminal has the
addresses of the command line. -/
def ofTag? (s : String) : Option Transport :=
  let s := toLower (trim s)
  if s = "tty" then some cli else ofName? s

/-- Only on HTTP does a method qualify an address. -/
def usesMethod : Transport → Bool
  | http => true
  | _ => false

end Transport

/-! ## Tags that name nothing -/

/-- A tag that names nothing of its set. -/
inductive UnknownTag
  | fieldType (s : String)
  | constraintKind (s : String)
  | transport (s : String)
  deriving DecidableEq, Repr

/-- The message about the tag, as it was compared. -/
def UnknownTag.message : UnknownTag → String
  | fieldType s => s!"unknown field type '{trim s}'"
  | constraintKind s => s!"unknown constraint type '{trim s}'"
  | transport s =>
    s!"unknown path type '{toLower (trim s)}' (expected one of: http, cli, ws, webhook, grpc)"

/-- The type of field a tag names. -/
def FieldType.ofTag (s : String) : Except UnknownTag FieldType :=
  (ofTag? s).elim (.error (.fieldType s)) .ok

/-- The kind of constraint a tag names. -/
def ConstraintKind.ofTag (s : String) : Except UnknownTag ConstraintKind :=
  (ofTag? s).elim (.error (.constraintKind s)) .ok

/-- The transport a tag names. -/
def Transport.ofTag (s : String) : Except UnknownTag Transport :=
  (ofTag? s).elim (.error (.transport s)) .ok

end Registrar
