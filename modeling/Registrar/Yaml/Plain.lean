import Registrar.Number.Binary64
import Registrar.Text.Digit

/-!
# The meaning of plain scalars

A scalar that is not quoted means null, a truth value, a number or, where it has none of these
forms, the text that it is (`Plain.of`). Whole numbers may have 128 bits here; who reads them
decides how many are too many.
-/

namespace Registrar.Yaml

open Text

/-- The meaning of a plain scalar. -/
inductive Plain
  | null
  | bool (b : Bool)
  | int (i : Int)
  | double (d : Binary64)
  /-- An infinity, or what is not a number. -/
  | notFinite
  | text

/-- The words for null. -/
def nullWords : List String := ["null", "Null", "NULL", "~"]

/-- The truth value that a word stands for. -/
def boolOf? (s : String) : Option Bool :=
  if ["true", "True", "TRUE"].contains s then some true
  else if ["false", "False", "FALSE"].contains s then some false
  else none

/-- Whether the scalar has digits only, the first of several being a zero. It is a text then. -/
def isZeroPadded (s : List Char) : Bool :=
  let digits := match s with
    | '-' :: rest | '+' :: rest => rest
    | _ => s
  match digits with
  | '0' :: more => !more.isEmpty && more.all Char.isDigit
  | _ => false

/-- The base that a numeral names, with its digits. -/
def based? (s : List Char) : Option (Nat × List Char) :=
  match s with
  | '0' :: 'x' :: digits => some (16, digits)
  | '0' :: 'o' :: digits => some (8, digits)
  | '0' :: 'b' :: digits => some (2, digits)
  | _ => none

/-- The whole number that digits give in the base they name, or else in base ten. -/
def whole? (s : List Char) : Option Nat :=
  match (based? s).bind fun (base, digits) => number? base digits with
  | some n => some n
  | none => number? 10 s

/-- The whole number that a plain scalar stands for. -/
def intOf? (s : List Char) : Option Int :=
  if isZeroPadded s then none
  else match s with
    | '-' :: rest => (whole? rest).bind fun n => if n ≤ 1 <<< 127 then some (-(n : Int)) else none
    | '+' :: rest => (whole? rest).bind fun n => if n < 1 <<< 128 then some (n : Int) else none
    | _ => (whole? s).bind fun n => if n < 1 <<< 128 then some (n : Int) else none

/-- The exponent after the digits of a decimal. -/
def exponentOf? (s : List Char) : Option Int :=
  match s with
  | [] => some 0
  | e :: rest =>
    if e ≠ 'e' && e ≠ 'E' then none
    else match rest with
      | '-' :: digits => (number? 10 digits).map fun n => -(n : Int)
      | '+' :: digits => (number? 10 digits).map fun n => (n : Int)
      | digits => (number? 10 digits).map fun n => (n : Int)

/-- The double that a decimal without a sign stands for. It has a digit before or after the point,
and must be finite. -/
def decimalOf? (negative : Bool) (s : List Char) : Option Binary64 := do
  let before := s.takeWhile Char.isDigit
  let rest := s.drop before.length
  let after := match rest with
    | '.' :: rest => rest.takeWhile Char.isDigit
    | _ => []
  let rest := match rest with
    | '.' :: rest => rest.drop after.length
    | _ => rest
  if before.isEmpty && after.isEmpty then none
  else
    let exponent ← exponentOf? rest
    Binary64.ofDecimal? negative (decimalValue (before ++ after)) (exponent - after.length)

/-- The double that a plain scalar stands for, if it is finite. -/
def doubleOf? (s : List Char) : Option Binary64 :=
  match s with
  | '-' :: rest => decimalOf? true rest
  | '+' :: rest => decimalOf? false rest
  | _ => decimalOf? false s

/-- The words for infinities and for what is not a number. -/
def notFiniteWords : List String :=
  [".inf", ".Inf", ".INF", "+.inf", "+.Inf", "+.INF", "-.inf", "-.Inf", "-.INF", ".nan", ".NaN",
    ".NAN"]

/-- The meaning of a plain scalar. -/
def Plain.of (s : String) : Plain :=
  if s.isEmpty || nullWords.contains s then null
  else match boolOf? s with
    | some b => bool b
    | none =>
      match intOf? s.toList with
      | some i => int i
      | none =>
        if isZeroPadded s.toList then text
        else if notFiniteWords.contains s then notFinite
        else match doubleOf? s.toList with
          | some d => double d
          | none => text

end Registrar.Yaml
