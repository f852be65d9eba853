import Registrar.Text.Case

/-!
# Names

What counts as an identifier, and the names derived from a name: the English plural, the compound
form in capitals (`user_profile` is `UserProfile`) and the underscored form (`UserProfile` is
`user_profile`).
-/

namespace Registrar.Naming

open Text

/-! ## Identifiers -/

/-- An ASCII letter or an underscore. -/
def isIdentStart (c : Char) : Bool := c.isAlpha || c == '_'

/-- An ASCII letter, an ASCII digit or an underscore. -/
def isIdentRest (c : Char) : Bool := c.isAlphanum || c == '_'

/-- A letter or an underscore, then letters, digits and underscores, all ASCII. -/
def isIdentifier (s : String) : Bool :=
  match s.toList with
  | [] => false
  | c :: cs => isIdentStart c && cs.all isIdentRest

/-! ## Plurals -/

/-- The endings, in lower case, after which the plural takes `es`. -/
def sibilantEndings : List (List Char) :=
  [['s', 's'], ['x'], ['z'], ['c', 'h'], ['s', 'h'], ['u', 's']]

/-- Whether the lower-case vowel or capital vowel letters of English include the character. -/
def isVowel (c : Char) : Bool := c.toLower ∈ ['a', 'e', 'i', 'o', 'u']

/-- Where the name ends in `y` after a character other than a vowel, the name without the `y`. -/
def consonantStem? (s : String) : Option String :=
  match s.toList.reverse with
  | 'y' :: c :: cs => if isVowel c then none else some (String.ofList (c :: cs).reverse)
  | _ => none

/-- The English plural of a noun. The endings `s` and `es` are recognised in any case of letters,
the ending `y` in lower case only. -/
def pluralize (s : String) : String :=
  let lower := (toLower s).toList
  if s.isEmpty then ""
  else if sibilantEndings.any (·.isSuffixOf lower) then s ++ "es"
  else if ['s'].isSuffixOf lower then s
  else match consonantStem? s with
    | some stem => stem ++ "ies"
    | none => s ++ "s"

/-! ## Compound names -/

/-- What separates the parts of a compound name. -/
def isSeparator (c : Char) : Bool := c == '_' || c == '-' || c == ' '

/-- The part with its first character in upper case. -/
def capitalize : List Char → List Char
  | [] => []
  | c :: cs => upperOf c ++ cs

/-- The parts between separators, each capitalised, written together. -/
def toPascal (s : String) : String :=
  String.ofList ((s.toList.splitOnP isSeparator).flatMap capitalize)

/-- The underscored form of a text, when what precedes it ends in a lower-case letter or a digit
exactly if `afterLower`. -/
def underscored (afterLower : Bool) : List Char → List Char
  | [] => []
  | c :: cs =>
    if c = '-' ∨ c = ' ' then '_' :: underscored false cs
    else if isUppercase c then
      (if afterLower then ['_'] else []) ++ lowerOf c ++ underscored false cs
    else c :: underscored (isLowercase c || c.isDigit) cs

/-- Capitals in lower case, set off by an underscore from the word before; dashes and spaces become
underscores. -/
def toSnake (s : String) : String := String.ofList (underscored false s.toList)

end Registrar.Naming
