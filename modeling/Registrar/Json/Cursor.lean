import Registrar.Json.Fault
import Registrar.Text.Digit

/-!
# Reading JSON text

A cursor is what is left of a text, and the number of bytes before it. The functions here read one
token each: blanks, a fixed word, a numeral, a string. `skip` passes over a whole value that nobody
asks for; it accepts a little more than reading the value would, since it looks at neither the size
of numbers nor the pairing of surrogates nor the depth of nesting.
-/

namespace Registrar.Json

/-- What is left to read, and the number of bytes before it. -/
structure Cursor where
  rest : List Char
  offset : Nat
  deriving Repr

/-- A value and the cursor after it, or the fault that stopped the reading. -/
abbrev Step (α : Type) := Except Fault (α × Cursor)

namespace Cursor

/-- The start of a text. -/
def start (s : String) : Cursor := ⟨s.toList, 0⟩

/-- A fault at the cursor, before the next byte. -/
def fault (c : Cursor) (f : Flaw) : Fault := ⟨.flaw f, c.offset⟩

/-- A fault of the next byte, or of the end of the text. -/
def faultNext (c : Cursor) (f : Flaw) : Fault :=
  ⟨.flaw f, c.offset + if c.rest.isEmpty then 0 else 1⟩

/-- A mismatch whose place is the cursor. -/
def mismatch (c : Cursor) (m : Mismatch) : Fault := ⟨.mismatch m, c.offset⟩

/-- The blanks of JSON. -/
def isSpace (c : Char) : Bool := c == ' ' || c == '\n' || c == '\t' || c == '\r'

/-- The cursor after some ASCII characters. -/
def past (c : Cursor) (n : Nat) : Cursor := ⟨c.rest.drop n, c.offset + n⟩

/-- The cursor after the blanks. -/
def skipSpace (c : Cursor) : Cursor :=
  ⟨c.rest.dropWhile isSpace, c.offset + (c.rest.takeWhile isSpace).length⟩

end Cursor

open Cursor Text

/-! ## Words -/

/-- Reads the letters of a fixed word. -/
def readWord : List Char → Cursor → Step Unit
  | [], c => .ok ((), c)
  | w :: ws, c =>
    match c.rest with
    | [] => .error (c.fault .endInValue)
    | d :: _ => if d = w then readWord ws (c.past 1) else .error ⟨.flaw .noWord, c.offset + 1⟩

/-! ## Numerals -/

/-- A numeral: its sign, its digits as one number, the power of ten that goes with them, and whether
it was written with neither a point nor an exponent. -/
structure Numeral where
  negative : Bool
  digits : Nat
  exponent : Int
  whole : Bool

/-- The digits at the cursor, and the cursor after them. -/
def takeDigits (c : Cursor) : List Char × Cursor :=
  let ds := c.rest.takeWhile Char.isDigit
  (ds, c.past ds.length)

/-- Reads the digits before the point. -/
def readWhole (c : Cursor) : Step (List Char) :=
  match c.rest with
  | [] => .error (c.fault .endInValue)
  | '0' :: d :: _ =>
    if d.isDigit then .error ⟨.flaw .badNumber, c.offset + 2⟩ else .ok (['0'], c.past 1)
  | d :: _ => if d.isDigit then .ok (takeDigits c) else .error ⟨.flaw .badNumber, c.offset + 1⟩

/-- Reads a point and the digits after it, where there is one. -/
def readFraction (c : Cursor) : Step (Option (List Char)) :=
  match c.rest with
  | '.' :: _ =>
    match takeDigits (c.past 1) with
    | ([], c) => .error (c.faultNext (if c.rest.isEmpty then .endInValue else .badNumber))
    | (ds, c) => .ok (some ds, c)
  | _ => .ok (none, c)

/-- An exponent of more than 31 bits is cut short here: the place where it grows too great. -/
def exponentLimit (value offset : Nat) : List Char → Option Nat
  | [] => none
  | d :: ds =>
    let value := 10 * value + (d.toNat - 48)
    if 1 <<< 31 ≤ value then some (offset + 1) else exponentLimit value (offset + 1) ds

/-- Reads the sign and the digits of an exponent after its letter. -/
def readPower (c : Cursor) (isZero : Bool) : Step Int :=
  let (negative, c) := match c.rest with
    | '+' :: _ => (false, c.past 1)
    | '-' :: _ => (true, c.past 1)
    | _ => (false, c)
  match takeDigits c with
  | ([], c) =>
    .error (if c.rest.isEmpty then c.fault .endInValue else ⟨.flaw .badNumber, c.offset + 1⟩)
  | (ds, after) =>
    match exponentLimit 0 c.offset ds with
    | some offset =>
      if !isZero && !negative then .error ⟨.flaw .numberRange, offset⟩
      else .ok (if negative then -0x80000000 else 0, after)
    | none =>
      .ok (if negative then -(decimalValue ds : Int) else decimalValue ds, after)

/-- Reads an exponent, where there is one. -/
def readExponent (c : Cursor) (isZero : Bool) : Step (Option Int) :=
  match c.rest with
  | 'e' :: _ | 'E' :: _ => (readPower (c.past 1) isZero).map fun (e, c) => (some e, c)
  | _ => .ok (none, c)

/-- Reads a numeral, of which the sign is already read. -/
def readNumeral (negative : Bool) (c : Cursor) : Except Fault (Numeral × Cursor) := do
  let (whole, c) ← readWhole c
  let (fraction, c) ← readFraction c
  let digits := decimalValue (whole ++ fraction.getD [])
  let (power, c) ← readExponent c (digits == 0)
  let exponent := power.getD 0 - (fraction.getD []).length
  return (⟨negative, digits, exponent, fraction.isNone && power.isNone⟩, c)

/-- The number that a numeral stands for, unless it is too great for a double. -/
def Numeral.number? (n : Numeral) : Option Number :=
  Number.ofDecimal? n.negative n.digits n.exponent n.whole

/-- Reads a number. The cursor is before its sign or its first digit. -/
def readNumber (c : Cursor) : Except Fault (Number × Cursor) := do
  let (n, c) ← match c.rest with
    | '-' :: _ => readNumeral true (c.past 1)
    | _ => readNumeral false c
  match n.number? with
  | some n => .ok (n, c)
  | none => .error (c.fault .numberRange)

/-! ## Strings -/

/-- The value of four hexadecimal digits. -/
def hexUnit? (a b c d : Char) : Option Nat := do
  return ((← hexValue? a) * 16 + (← hexValue? b)) * 256 + (← hexValue? c) * 16 + (← hexValue? d)

/-- Whether the unit is the first of a surrogate pair. -/
def isLead (n : Nat) : Bool := 0xD800 ≤ n && n < 0xDC00

/-- Whether the unit is the second of a surrogate pair. -/
def isTrail (n : Nat) : Bool := 0xDC00 ≤ n && n < 0xE000

/-- The character of a surrogate pair. -/
def pairChar (lead trail : Nat) : Char :=
  Char.ofNat ((lead - 0xD800) * 0x400 + (trail - 0xDC00) + 0x10000)

/-- What a backslash and this character stand for. -/
def shortEscape? : Char → Option Char
  | '"' => some '"'
  | '\\' => some '\\'
  | '/' => some '/'
  | 'b' => some '\x08'
  | 'f' => some '\x0c'
  | 'n' => some '\n'
  | 'r' => some '\r'
  | 't' => some '\t'
  | _ => none

/-- The number of bytes of a list of characters. -/
def byteCount (cs : List Char) : Nat := (String.ofList cs).utf8ByteSize

/-- The fault where four hexadecimal digits should stand: four other bytes, or too few. -/
def hexFault (rest : List Char) (offset : Nat) : Fault :=
  let bytes := byteCount (rest.take 4)
  if bytes < 4 then ⟨.flaw .endInString, offset + bytes⟩ else ⟨.flaw .badEscape, offset + 4⟩

/-- The fault where no second unit follows the first one of a pair. -/
def leadFault (rest : List Char) (offset : Nat) : Fault :=
  match rest with
  | [] => ⟨.flaw .endInString, offset⟩
  | ['\\'] => ⟨.flaw .endInString, offset + 1⟩
  | '\\' :: 'u' :: rest => hexFault rest (offset + 2)
  | '\\' :: _ => ⟨.flaw .endOfEscape, offset + 2⟩
  | _ => ⟨.flaw .endOfEscape, offset + 1⟩

/-- Puts a character before those that were read. -/
def andThen (c : Char) : Step (List Char) → Step (List Char) :=
  Except.map fun (cs, after) => (c :: cs, after)

/-- Reads the characters of a string after its opening quote, and the closing quote. -/
def readChars : List Char → Nat → Step (List Char)
  | [], o => .error ⟨.flaw .endInString, o⟩
  | '"' :: r, o => .ok ([], ⟨r, o + 1⟩)
  | '\\' :: 'u' :: a :: b :: c :: d :: r, o =>
    match hexUnit? a b c d with
    | none => .error (hexFault (a :: b :: c :: d :: r) (o + 2))
    | some n =>
      if isTrail n then .error ⟨.flaw .loneSurrogate, o + 6⟩
      else if isLead n then
        match r with
        | '\\' :: 'u' :: e :: f :: g :: h :: r' =>
          match hexUnit? e f g h with
          | none => .error (leadFault r (o + 6))
          | some k =>
            if isTrail k then andThen (pairChar n k) (readChars r' (o + 12))
            else .error ⟨.flaw .loneSurrogate, o + 12⟩
        | _ => .error (leadFault r (o + 6))
      else andThen (Char.ofNat n) (readChars r (o + 6))
  | ['\\'], o => .error ⟨.flaw .endInString, o + 1⟩
  | '\\' :: c :: r, o =>
    if c = 'u' then .error (hexFault r (o + 2))
    else match shortEscape? c with
      | some c => andThen c (readChars r (o + 2))
      | none => .error ⟨.flaw .badEscape, o + 2⟩
  | c :: r, o =>
    if c.toNat < 0x20 then .error ⟨.flaw .controlCharacter, o + 1⟩
    else andThen c (readChars r (o + c.utf8Size))

/-- Reads a string after its opening quote. -/
def readString (c : Cursor) : Step String :=
  (readChars c.rest c.offset).map fun (cs, c) => (String.ofList cs, c)

/-! ## Passing over values -/

/-- Passes over the characters of a string after its opening quote, and the closing quote. -/
def skipChars : List Char → Nat → Except Fault Cursor
  | [], o => .error ⟨.flaw .endInString, o⟩
  | '"' :: r, o => .ok ⟨r, o + 1⟩
  | '\\' :: 'u' :: a :: b :: c :: d :: r, o =>
    match hexUnit? a b c d with
    | none => .error (hexFault (a :: b :: c :: d :: r) (o + 2))
    | some _ => skipChars r (o + 6)
  | ['\\'], o => .error ⟨.flaw .endInString, o + 1⟩
  | '\\' :: c :: r, o =>
    if c = 'u' then .error (hexFault r (o + 2))
    else if (shortEscape? c).isSome then skipChars r (o + 2)
    else .error ⟨.flaw .badEscape, o + 2⟩
  | c :: r, o =>
    if c.toNat < 0x20 then .error ⟨.flaw .controlCharacter, o⟩
    else skipChars r (o + c.utf8Size)

/-- Passes over the digits and the exponent of a numeral after its letter. -/
def skipPower (c : Cursor) : Except Fault Cursor :=
  let c := match c.rest with
    | '+' :: _ | '-' :: _ => c.past 1
    | _ => c
  match takeDigits c with
  | ([], c) => .error (c.faultNext .badNumber)
  | (_, c) => .ok c

/-- Passes over an exponent, where there is one. -/
def skipExponent (c : Cursor) : Except Fault Cursor :=
  match c.rest with
  | 'e' :: _ | 'E' :: _ => skipPower (c.past 1)
  | _ => .ok c

/-- Passes over a numeral after its sign. -/
def skipNumeral (c : Cursor) : Except Fault Cursor :=
  match c.rest with
  | [] => .error (c.fault .badNumber)
  | _ => do
    let (_, c) ← readWhole c
    match c.rest with
    | '.' :: _ =>
      match takeDigits (c.past 1) with
      | ([], c) => .error (c.faultNext .badNumber)
      | (_, c) => skipExponent c
    | _ => skipExponent c

/-- Passes over a value that is no container. -/
def skipScalar (c : Cursor) : Except Fault Cursor :=
  match c.rest with
  | [] => .error (c.fault .endInValue)
  | 'n' :: _ => (readWord ['u', 'l', 'l'] (c.past 1)).map (·.2)
  | 't' :: _ => (readWord ['r', 'u', 'e'] (c.past 1)).map (·.2)
  | 'f' :: _ => (readWord ['a', 'l', 's', 'e'] (c.past 1)).map (·.2)
  | '-' :: _ => skipNumeral (c.past 1)
  | '"' :: r => skipChars r (c.offset + 1)
  | d :: _ => if d.isDigit then skipNumeral c else .error (c.faultNext .noValue)

/-- Passes over the key of a member and the colon after it. -/
def skipKey (c : Cursor) : Except Fault Cursor := do
  let c := c.skipSpace
  match c.rest with
  | [] => .error (c.fault .endInObject)
  | '"' :: r =>
    let c := (← skipChars r (c.offset + 1)).skipSpace
    match c.rest with
    | ':' :: _ => .ok (c.past 1)
    | [] => .error (c.fault .endInObject)
    | _ => .error (c.faultNext .noColon)
  | _ => .error (c.faultNext .keyNotString)

/-- The containers that a cursor is in. -/
inductive Frame
  | list
  | object
  deriving DecidableEq, Repr

/-- The bracket that closes a container. -/
def Frame.closing : Frame → Char
  | list => ']'
  | object => '\x7d'

/-- The flaw of a text that ends in a container. -/
def Frame.endFlaw : Frame → Flaw
  | list => .endInList
  | object => .endInObject

/-- The flaw of a text that neither goes on with a container nor closes it. -/
def Frame.gapFlaw : Frame → Flaw
  | list => .noListEnd
  | object => .noObjectEnd

/-- Where the passing over stands: before a value, or after one (or after an opening bracket, where
no comma may follow). -/
inductive Passing
  | value
  | after (comma : Bool)

/-- Passes over the values of the frames, innermost first. Every round passes over a character. -/
def skipFrames : Nat → Passing → List Frame → Cursor → Except Fault Cursor
  | 0, _, _, c => .error (c.fault .endInValue)
  | n + 1, .value, frames, c =>
    let c := c.skipSpace
    match c.rest with
    | '[' :: _ => skipFrames n (.after false) (.list :: frames) (c.past 1)
    | '\x7b' :: _ => skipFrames n (.after false) (.object :: frames) (c.past 1)
    | _ => do skipFrames n (.after true) frames (← skipScalar c)
  | _ + 1, .after _, [], c => .ok c
  | n + 1, .after comma, f :: frames, c =>
    let c := c.skipSpace
    let next := fun (c : Cursor) => do
      let c ← if f = .object then skipKey c else .ok c
      skipFrames n .value (f :: frames) c
    match c.rest with
    | [] => .error (c.fault f.endFlaw)
    | d :: _ =>
      if d = f.closing then skipFrames n (.after true) frames (c.past 1)
      else if !comma then next c
      else if d = ',' then next (c.past 1)
      else .error (c.faultNext f.gapFlaw)

/-- Passes over a value. -/
def skip (c : Cursor) : Except Fault Cursor := skipFrames (2 * c.rest.length + 2) .value [] c

end Registrar.Json
