/-!
# Blank characters

`isBlank` decides the Unicode property `White_Space`. Texts are trimmed and split into words at
blanks: `trim` drops the blanks at both ends, `words` lists the maximal runs of other characters.
The functions on `List Char` carry the lemmas; those on `String` only convert.
-/

namespace Registrar.Text

/-- The characters with the Unicode property `White_Space`. -/
def isBlank (c : Char) : Bool :=
  ('\t' ≤ c && c ≤ '\r') || c == ' ' || c == '\u0085' || c == '\u00a0' || c == '\u1680' ||
    ('\u2000' ≤ c && c ≤ '\u200a') || c == '\u2028' || c == '\u2029' || c == '\u202f' ||
    c == '\u205f' || c == '\u3000'

/-- The list without the blanks it starts with. -/
def dropBlanks (s : List Char) : List Char := s.dropWhile isBlank

/-- The list without the blanks it starts and ends with. -/
def trimmed (s : List Char) : List Char := (dropBlanks (dropBlanks s).reverse).reverse

/-- The maximal runs of characters that are not blank. -/
def wordsOf (s : List Char) : List (List Char) :=
  (s.splitOnP isBlank).filter fun w => !w.isEmpty

/-- The text without the blanks around it. -/
def trim (s : String) : String := String.ofList (trimmed s.toList)

/-- The words of the text, in order. -/
def words (s : String) : List String := (wordsOf s.toList).map String.ofList

/-- A text is blank when it holds blanks only, so also when it is empty. -/
def isBlankText (s : String) : Bool := s.toList.all isBlank

@[simp] theorem toList_trim (s : String) : (trim s).toList = trimmed s.toList := by simp [trim]

end Registrar.Text
