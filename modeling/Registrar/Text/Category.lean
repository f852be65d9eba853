import Registrar.Text.Category.Table

/-!
# General categories

The Unicode general categories by name, the groups they form, and which characters a message shows
as they are.
-/

namespace Registrar.Text

namespace Category

/-- A general category: its abbreviation, its name in lower case without separators, and the
characters it holds. -/
structure Entry where
  short : String
  long : String
  spans : List Span

/-- The categories of assigned characters. -/
def entries : List Entry := [
  ⟨"cc", "control", control⟩, ⟨"cf", "format", format⟩, ⟨"co", "privateuse", privateUse⟩,
  ⟨"ll", "lowercaseletter", lowercaseLetter⟩, ⟨"lm", "modifierletter", modifierLetter⟩,
  ⟨"lo", "otherletter", otherLetter⟩, ⟨"lt", "titlecaseletter", titlecaseLetter⟩,
  ⟨"lu", "uppercaseletter", uppercaseLetter⟩, ⟨"mc", "spacingmark", spacingMark⟩,
  ⟨"me", "enclosingmark", enclosingMark⟩, ⟨"mn", "nonspacingmark", nonspacingMark⟩,
  ⟨"nd", "decimalnumber", decimalNumber⟩, ⟨"nl", "letternumber", letterNumber⟩,
  ⟨"no", "othernumber", otherNumber⟩, ⟨"pc", "connectorpunctuation", connectorPunctuation⟩,
  ⟨"pd", "dashpunctuation", dashPunctuation⟩, ⟨"pe", "closepunctuation", closePunctuation⟩,
  ⟨"pf", "finalpunctuation", finalPunctuation⟩,
  ⟨"pi", "initialpunctuation", initialPunctuation⟩,
  ⟨"po", "otherpunctuation", otherPunctuation⟩, ⟨"ps", "openpunctuation", openPunctuation⟩,
  ⟨"sc", "currencysymbol", currencySymbol⟩, ⟨"sk", "modifiersymbol", modifierSymbol⟩,
  ⟨"sm", "mathsymbol", mathSymbol⟩, ⟨"so", "othersymbol", otherSymbol⟩,
  ⟨"zl", "lineseparator", lineSeparator⟩, ⟨"zp", "paragraphseparator", paragraphSeparator⟩,
  ⟨"zs", "spaceseparator", spaceSeparator⟩]

/-- Groups of categories: abbreviation, name and the abbreviations of the members. -/
def groups : List (String × String × List String) := [
  ("l", "letter", ["ll", "lm", "lo", "lt", "lu"]),
  ("lc", "casedletter", ["ll", "lt", "lu"]),
  ("m", "mark", ["mc", "me", "mn"]),
  ("n", "number", ["nd", "nl", "no"]),
  ("p", "punctuation", ["pc", "pd", "pe", "pf", "pi", "po", "ps"]),
  ("s", "symbol", ["sc", "sk", "sm", "so"]),
  ("z", "separator", ["zl", "zp", "zs"])]

/-- The spans of the categories with these abbreviations. -/
def spansOf (shorts : List String) : List Span :=
  (entries.filter fun e => shorts.contains e.short).flatMap (·.spans)

/-- The spans of every assigned character. -/
def assigned : List Span := entries.flatMap (·.spans)

/-- Spacing marks and others that extend the character before them, beyond the marks proper. -/
def otherExtenders : List Span := [
  ⟨0x9BE, 0x9BE, 1⟩, ⟨0x9D7, 0x9D7, 1⟩, ⟨0xB3E, 0xB3E, 1⟩, ⟨0xB57, 0xB57, 1⟩,
  ⟨0xBBE, 0xBBE, 1⟩, ⟨0xBD7, 0xBD7, 1⟩, ⟨0xCC2, 0xCC2, 1⟩, ⟨0xCD5, 0xCD6, 1⟩,
  ⟨0xD3E, 0xD3E, 1⟩, ⟨0xD57, 0xD57, 1⟩, ⟨0xDCF, 0xDCF, 1⟩, ⟨0xDDF, 0xDDF, 1⟩,
  ⟨0x1B35, 0x1B35, 1⟩, ⟨0x200C, 0x200C, 1⟩, ⟨0x302E, 0x302F, 1⟩, ⟨0xFF9E, 0xFF9F, 1⟩,
  ⟨0x1133E, 0x1133E, 1⟩, ⟨0x11357, 0x11357, 1⟩, ⟨0x114B0, 0x114B0, 1⟩,
  ⟨0x114BD, 0x114BD, 1⟩, ⟨0x115AF, 0x115AF, 1⟩, ⟨0x11930, 0x11930, 1⟩,
  ⟨0x1D165, 0x1D165, 1⟩, ⟨0x1D16E, 0x1D172, 1⟩, ⟨0xE0020, 0xE007F, 1⟩]

end Category

/-! ## Showing a text in a message -/

/-- Whether a message shows the character as it is: it is assigned, visible or a plain blank, and
stands on its own. -/
def isShown (c : Char) : Bool :=
  if c.toNat < 0x80 then ' ' ≤ c && c ≤ '~'
  else onSpans Category.assigned c &&
    !onSpans (Category.spansOf ["cc", "cf", "co", "zl", "zp", "zs", "me", "mn"]) c &&
    !onSpans Category.otherExtenders c

/-- What stands for the character in a text shown between quotes. -/
def shownChar (c : Char) : List Char :=
  if c = '"' then ['\\', '"']
  else if c = '\\' then ['\\', '\\']
  else if c = '\n' then ['\\', 'n']
  else if c = '\r' then ['\\', 'r']
  else if c = '\t' then ['\\', 't']
  else if c.toNat = 0 then ['\\', '0']
  else if isShown c then [c]
  else '\\' :: 'u' :: '\x7b' :: Nat.toDigits 16 c.toNat ++ ['\x7d']

/-- The text between quotes, as a message shows it. -/
def shown (s : String) : String := String.ofList ('"' :: s.toList.flatMap shownChar ++ ['"'])

end Registrar.Text
