import Registrar.Text.Case.Table

/-!
# Letter case

The full Unicode case mappings: a character may map to several (`ß` is `SS` in upper case). In
`toLower` of a text a capital sigma that ends a word becomes the final sigma; `lowerOf` of a single
character knows no word and always gives the medial one.
-/

namespace Registrar.Text

open Case

/-- The span's image of the character, where a shift covers it. -/
def shifted (shifts : List Shift) (c : Char) : Option Char :=
  (shifts.find? fun s => s.holds c.toNat).map fun s => Char.ofNat ((c.toNat : Int) + s.offset).toNat

/-- The lower-case form of one character. -/
def lowerOf (c : Char) : List Char :=
  if c.toNat < 0x80 then [c.toLower]
  else if c = '\u0130' then ['i', '\u0307']
  else [(shifted lowerShifts c).getD c]

/-- The upper-case form of one character. -/
def upperOf (c : Char) : List Char :=
  if c.toNat < 0x80 then [c.toUpper]
  else match upperExpansions.lookup c.toNat with
    | some cs => cs
    | none => [(shifted upperShifts c).getD c]

/-- Whether the character has the property `Uppercase`. -/
def isUppercase (c : Char) : Bool :=
  if c.toNat < 0x80 then c.isUpper else onSpans uppercaseSpans c

/-- Whether the character has the property `Lowercase`. -/
def isLowercase (c : Char) : Bool :=
  if c.toNat < 0x80 then c.isLower else onSpans lowercaseSpans c

/-- Whether the character has the property `Cased`. -/
def isCased (c : Char) : Bool :=
  if c.toNat < 0x80 then c.isAlpha else onSpans casedSpans c

/-- Whether the character has the property `Case_Ignorable`. -/
def isCaseIgnorable (c : Char) : Bool :=
  if c.toNat < 0x80 then c == '\'' || c == '.' || c == ':' || c == '^' || c == '\x60'
  else onSpans caseIgnorableSpans c

/-- Whether the first character that case does not ignore is a cased one. -/
def meetsCased (s : List Char) : Bool :=
  match s.dropWhile isCaseIgnorable with
  | [] => false
  | c :: _ => isCased c

/-- The lower-case form of a text whose part before it, nearest character first, is `before`. -/
def lowerAfter (before : List Char) : List Char → List Char
  | [] => []
  | c :: cs =>
    let here := if c = 'Σ' then
        [if meetsCased before && !meetsCased cs then 'ς' else 'σ']
      else lowerOf c
    here ++ lowerAfter (c :: before) cs

/-- The text in lower case. -/
def toLower (s : String) : String := String.ofList (lowerAfter [] s.toList)

/-- The text in upper case. -/
def toUpper (s : String) : String := String.ofList (s.toList.flatMap upperOf)

end Registrar.Text
