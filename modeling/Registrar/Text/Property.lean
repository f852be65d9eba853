import Registrar.Text.Blank
import Registrar.Text.Case
import Registrar.Text.Category
import Registrar.Text.CodeSet
import Registrar.Text.Property.Table
import Registrar.Text.Script

/-!
# Properties of characters

The sets of characters that have a Unicode property, by the name of the property: a binary property,
a general category or a script. Names are compared as Unicode recommends (`Property.fold`): case,
blanks, hyphens and underscores do not count, nor does a leading `is`.
-/

namespace Registrar.Text.Property

open CodeSet

/-! ## Names -/

/-- The name without what does not count in it. -/
def fold (name : String) : String :=
  let cs := name.toList
  let lower := fun (s : List Char) =>
    ((s.filter fun c => c ≠ ' ' && c ≠ '_' && c ≠ '-' && c.toNat < 0x80).map Char.toLower)
  let starts := (cs.take 2).map Char.toLower = ['i', 's']
  let rest := lower (if starts then cs.drop 2 else cs)
  String.ofList (if starts && rest = ['c'] then ['i', 's', 'c'] else rest)

/-! ## Properties that follow from others -/

/-- The characters of ASCII that a test accepts, as ranges. -/
def asciiRanges (test : Char → Bool) : List (Nat × Nat) :=
  ((List.range 0x80).filter fun n => test (Char.ofNat n)).map fun n => (n, n)

/-- The characters of spans beyond ASCII and of a test on ASCII. -/
def withAscii (test : Char → Bool) (spans : List Span) : CodeSet :=
  (ofRanges (asciiRanges test)).union (ofSpans spans)

/-- The characters of general categories. -/
def categories (shorts : List String) : CodeSet := ofSpans (Category.spansOf shorts)

/-- The property `White_Space`. -/
def whiteSpace : CodeSet :=
  ofRanges ((List.range 0x3001).filterMap fun n =>
    if isBlank (Char.ofNat n) then some (n, n) else none)

/-- The property `Lowercase`. -/
def lowercase : CodeSet := withAscii isLowercase Case.lowercaseSpans

/-- The property `Uppercase`. -/
def uppercase : CodeSet := withAscii isUppercase Case.uppercaseSpans

/-- The property `Alphabetic`. -/
def alphabetic : CodeSet :=
  ((categories ["lu", "ll", "lt", "lm", "lo", "nl"]).union (ofSpans otherAlphabetic)).union
    (lowercase.union uppercase)

/-- The property `Grapheme_Extend`. -/
def graphemeExtend : CodeSet := ofSpans (Category.spansOf ["me", "mn"] ++ Category.otherExtenders)

/-- The property `Grapheme_Base`. -/
def graphemeBase : CodeSet :=
  ((ofSpans Category.assigned).diff (categories ["cc", "cf", "co", "zl", "zp"])).diff graphemeExtend

/-- The property `ID_Start`. -/
def idStart : CodeSet :=
  ((categories ["lu", "ll", "lt", "lm", "lo", "nl"]).union
    (ofRanges [(0x1885, 0x1886), (0x2118, 0x2118), (0x212E, 0x212E), (0x309B, 0x309C)])).diff
    (single 0x2E2F)

/-- The property `ID_Continue`. -/
def idContinue : CodeSet :=
  (idStart.union (categories ["mn", "mc", "nd", "pc"])).union
    (ofRanges [(0xB7, 0xB7), (0x387, 0x387), (0x1369, 0x1371), (0x19DA, 0x19DA)])

/-- What an identifier cannot go on with once its text is brought into compatibility form. -/
def unstable : CodeSet :=
  ofRanges ([(0x37A, 0x37A), (0x309B, 0x309C), (0xFC5E, 0xFC63), (0xFDFA, 0xFDFB)] ++
    rangesOf ⟨0xFE70, 0xFE7E, 2⟩)

/-- The property `XID_Start`. -/
def xidStart : CodeSet :=
  (idStart.diff unstable).diff (ofRanges [(0xE33, 0xE33), (0xEB3, 0xEB3), (0xFF9E, 0xFF9F)])

/-- The property `XID_Continue`. -/
def xidContinue : CodeSet := idContinue.diff unstable

/-- The code points that stand for no character in any version of Unicode. -/
def noncharacter : CodeSet :=
  ofRanges ((0xFDD0, 0xFDEF) :: (List.range 17).map fun plane =>
    (plane * 0x10000 + 0xFFFE, plane * 0x10000 + 0xFFFF))

/-! ## Look-up by name -/

/-- The binary property with the name. -/
def binary? (name : String) : Option CodeSet :=
  match name with
  | "alphabetic" | "alpha" => some alphabetic
  | "asciihexdigit" | "ahex" => some (ofSpans asciiHexDigit)
  | "bidicontrol" | "bidic" => some (ofSpans bidiControl)
  | "bidimirrored" | "bidim" => some (ofSpans bidiMirrored)
  | "cased" => some (withAscii isCased Case.casedSpans)
  | "caseignorable" | "ci" => some (withAscii isCaseIgnorable Case.caseIgnorableSpans)
  | "dash" => some (ofSpans dash)
  | "defaultignorablecodepoint" | "di" => some (ofSpans defaultIgnorableCodePoint)
  | "deprecated" | "dep" => some (ofSpans deprecated)
  | "diacritic" | "dia" => some (ofSpans diacritic)
  | "emoji" => some (ofSpans emoji)
  | "emojicomponent" | "ecomp" => some (ofSpans emojiComponent)
  | "emojimodifier" | "emod" => some (ofSpans emojiModifier)
  | "emojimodifierbase" | "ebase" => some (ofSpans emojiModifierBase)
  | "emojipresentation" | "epres" => some (ofSpans emojiPresentation)
  | "extendedpictographic" | "extpict" => some (ofSpans extendedPictographic)
  | "extender" | "ext" => some (ofSpans extender)
  | "graphemebase" | "grbase" => some graphemeBase
  | "graphemeextend" | "grext" => some graphemeExtend
  | "hexdigit" | "hex" => some (ofSpans hexDigit)
  | "hyphen" => some (ofSpans hyphen)
  | "idcontinue" | "idc" => some idContinue
  | "ideographic" | "ideo" => some (ofSpans ideographic)
  | "idsbinaryoperator" | "idsb" => some (ofSpans idsBinaryOperator)
  | "idstart" | "ids" => some idStart
  | "idstrinaryoperator" | "idst" => some (ofSpans idsTrinaryOperator)
  | "joincontrol" | "joinc" => some (ofSpans joinControl)
  | "logicalorderexception" | "loe" => some (ofSpans logicalOrderException)
  | "lowercase" | "lower" => some lowercase
  | "math" => some (ofSpans math)
  | "noncharactercodepoint" | "nchar" => some noncharacter
  | "patternsyntax" | "patsyn" => some (ofSpans patternSyntax)
  | "patternwhitespace" | "patws" => some (ofSpans patternWhiteSpace)
  | "prependedconcatenationmark" | "pcm" => some (ofSpans prependedConcatenationMark)
  | "quotationmark" | "qmark" => some (ofSpans quotationMark)
  | "radical" => some (ofSpans radical)
  | "regionalindicator" | "ri" => some (ofSpans regionalIndicator)
  | "sentenceterminal" | "sterm" => some (ofSpans sentenceTerminal)
  | "softdotted" | "sd" => some (ofSpans softDotted)
  | "terminalpunctuation" | "term" => some (ofSpans terminalPunctuation)
  | "unifiedideograph" | "uideo" => some (ofSpans unifiedIdeograph)
  | "uppercase" | "upper" => some uppercase
  | "variationselector" | "vs" => some (ofSpans variationSelector)
  | "whitespace" | "wspace" | "space" => some whiteSpace
  | "xidcontinue" | "xidc" => some xidContinue
  | "xidstart" | "xids" => some xidStart
  | _ => none

/-- The general category, or group of them, with the name. -/
def category? (name : String) : Option CodeSet :=
  match name with
  | "any" => some all
  | "assigned" => some (ofSpans Category.assigned)
  | "ascii" => some (ofRanges [(0, 0x7F)])
  | "cn" | "unassigned" => some (ofSpans Category.assigned).compl
  | "c" | "other" =>
    some ((ofSpans Category.assigned).diff (categories ["cc", "cf", "co"])).compl
  | "cntrl" => some (categories ["cc"])
  | "digit" => some (categories ["nd"])
  | "punct" => some (categories ["pc", "pd", "pe", "pf", "pi", "po", "ps"])
  | "combiningmark" => some (categories ["mc", "me", "mn"])
  | _ =>
    match Category.entries.find? fun e => e.short = name || e.long = name with
    | some e => some (ofSpans e.spans)
    | none => (Category.groups.find? fun g => g.1 = name || g.2.1 = name).map fun g =>
        categories g.2.2

/-- The script with the name. -/
def script? (name : String) : Option CodeSet := (Script.spans? name).map ofSpans

/-- The property with the name, which is a binary property, a general category or a script. -/
def named? (name : String) : Option CodeSet :=
  let name := fold name
  (binary? name).orElse fun _ => (category? name).orElse fun _ => script? name

/-- The characters for which a property has a value. -/
def valued? (property value : String) : Option CodeSet :=
  match fold property with
  | "generalcategory" | "gc" => category? (fold value)
  | "script" | "sc" => script? (fold value)
  | _ => none

/-! ## Digits and word characters -/

/-- The decimal digits. -/
def digits : CodeSet := categories ["nd"]

/-- What words are made of: letters, marks, digits and connectors. -/
def wordCharacters : CodeSet :=
  (alphabetic.union (categories ["mc", "me", "mn", "nd", "pc"])).union (ofSpans joinControl)

end Registrar.Text.Property
