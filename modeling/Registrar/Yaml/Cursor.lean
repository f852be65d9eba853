/-!
# Positions in YAML text

A cursor holds the characters that are left to read and counts characters, lines and columns. YAML
knows more line breaks than the line feed: a carriage return, both together, and three of Unicode's,
of which the separators of lines and paragraphs keep their character when a break becomes text.
-/

namespace Registrar.Yaml

/-! ## Characters -/

/-- Whether the character breaks a line. -/
def isBreak (c : Char) : Bool :=
  c = '\n' || c = '\r' || c = '\u0085' || c = '\u2028' || c = '\u2029'

/-- Whether the character is a space or a tab. -/
def isGap (c : Char) : Bool := c = ' ' || c = '\t'

/-- Whether the character may stand in names of anchors and handles. -/
def isNameChar (c : Char) : Bool := c.isAlphanum || c = '_' || c = '-'

/-- Whether YAML text may hold the character. -/
def isAllowed (c : Char) : Bool :=
  c = '\t' || c = '\n' || c = '\r' || (' ' ≤ c && c ≤ '~') || c = '\u0085' ||
    ('\u00a0' ≤ c && c ≤ '\ufffd') || 0x10000 ≤ c.toNat

/-- Whether a line, or the text, ends here. -/
def endsLine (c : Option Char) : Bool := c.all isBreak

/-- Whether a word ends here. -/
def endsWord (c : Option Char) : Bool := c.all fun c => isBreak c || isGap c

/-! ## Cursors -/

/-- A position in a text. -/
structure Cursor where
  rest : List Char
  index : Nat := 0
  line : Nat := 0
  column : Nat := 0

namespace Cursor

/-- The next character. -/
def head? (c : Cursor) : Option Char := c.rest.head?

/-- The character `i` places on. -/
def peek? (c : Cursor) (i : Nat) : Option Char := c.rest[i]?

/-- The next character is the given one. -/
def startsWith (c : Cursor) (x : Char) : Bool := c.head? = some x

/-- The cursor after `n` characters of the same line. -/
def skip (c : Cursor) (n : Nat := 1) : Cursor :=
  { c with rest := c.rest.drop n, index := c.index + n, column := c.column + n }

/-- The cursor after the characters that pass a test, none of which breaks the line. -/
def skipWhile (c : Cursor) (p : Char → Bool) : Cursor := c.skip (c.rest.takeWhile p).length

/-- The cursor after a comment, if one starts here. -/
def skipComment (c : Cursor) : Cursor :=
  if c.startsWith '#' then c.skipWhile fun x => !isBreak x else c

/-- The cursor in the first column of the next line, `n` characters on. -/
def nextLine (c : Cursor) (n : Nat) : Cursor :=
  { rest := c.rest.drop n, index := c.index + n, line := c.line + 1, column := 0 }

/-- Reads a line break, as the text it stands for. -/
def readBreak? (c : Cursor) : Option (Char × Cursor) :=
  match c.rest with
  | '\r' :: '\n' :: _ => some ('\n', c.nextLine 2)
  | x :: _ =>
    if !isBreak x then none
    else some (if x = '\u2028' || x = '\u2029' then x else '\n', c.nextLine 1)
  | [] => none

/-- The cursor after a line break, if one stands here. -/
def skipBreak (c : Cursor) : Cursor := (c.readBreak?.map (·.2)).getD c

/-- Whether three equal characters stand alone at the start of a line here. -/
def atMark (c : Cursor) (x : Char) : Bool :=
  c.column = 0 && c.rest.take 3 = [x, x, x] && endsWord (c.peek? 3)

/-- Whether a document starts or ends here. -/
def atMarker (c : Cursor) : Bool := c.atMark '-' || c.atMark '.'

end Cursor

end Registrar.Yaml
