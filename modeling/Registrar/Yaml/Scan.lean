import Registrar.Yaml.Scalar
import Registrar.Yaml.Token

/-!
# Reading tokens

`Token.scan?` reads a whole text into tokens. Where a block starts or ends follows from columns: the
scan keeps the indentation of the blocks that are open. That a token is a key is seen only at the
colon after it, on the same line and within 1024 characters; the scan keeps the place of the token
that may turn out to be one, for each flow collection that is open, and inserts the tokens for the
key there.
-/

namespace Registrar.Yaml

open Text

/-! ## The state of a scan -/

/-- A token that may turn out to be a key: how many tokens come before it, where it starts, and
whether it must be one. -/
structure Candidate where
  before : Nat
  index : Nat
  line : Nat
  column : Nat
  required : Bool

/-- The state of a scan: the position, the tokens read, the latest first, whether a key may start
here, the candidates for keys in the block and in each flow collection, the innermost first, and the
indentation of the open blocks, the innermost first. -/
structure Scan where
  cursor : Cursor
  tokens : List Token := []
  keyAllowed : Bool := true
  keys : List (Option Candidate) := [none]
  indents : List Nat := []

namespace Scan

/-- Whether a flow collection is open. -/
def inFlow (s : Scan) : Bool := 1 < s.keys.length

/-- The indentation of the innermost block; outside of blocks it is negative. -/
def indent (s : Scan) : Int := s.indents.head?.elim (-1) fun n => n

/-- The column before which the text of the innermost block does not go on. -/
def margin (s : Scan) : Nat := (s.indent + 1).toNat

/-- Adds a token. -/
def push (s : Scan) (t : Token) : Scan := { s with tokens := t :: s.tokens }

/-- Adds a token after the first `n` ones. -/
def insert (s : Scan) (n : Nat) (t : Token) : Scan :=
  let later := s.tokens.take (s.tokens.length - n)
  { s with tokens := later ++ t :: s.tokens.drop later.length }

/-- Adds a token that `n` characters make up, and says whether a key may follow it. -/
def take (s : Scan) (n : Nat) (t : Token) (keyAllowed : Bool) : Scan :=
  { s with cursor := s.cursor.skip n, tokens := t :: s.tokens, keyAllowed := keyAllowed }

/-! ## Blocks -/

/-- Opens a block at a column, after the first `n` tokens, unless one is open there or a flow
collection is. -/
def openBlock (s : Scan) (column n : Nat) (t : Token) : Scan :=
  if !s.inFlow && s.indent < column then { s with indents := column :: s.indents }.insert n t else s

/-- Closes the blocks that are indented further than to a column. -/
def closeBlocks (s : Scan) (column : Int) : Scan :=
  if s.inFlow then s
  else
    let closed := s.indents.takeWhile fun (n : Nat) => column < n
    { s with
      indents := s.indents.drop closed.length,
      tokens := List.replicate closed.length .blockEnd ++ s.tokens }

/-! ## Keys -/

/-- Drops the candidate for a key of the innermost collection. One that must be a key cannot be
dropped. -/
def dropKey? (s : Scan) : Option Scan :=
  match s.keys with
  | some k :: keys => if k.required then none else some { s with keys := none :: keys }
  | _ => some s

/-- Notes that the token that starts here may be a key. -/
def noteKey? (s : Scan) : Option Scan :=
  if !s.keyAllowed then some s
  else s.dropKey?.map fun s =>
    let c := s.cursor
    { s with keys := some ⟨s.tokens.length, c.index, c.line, c.column,
        !s.inFlow && s.indent = c.column⟩ :: s.keys.drop 1 }

/-- Whether the candidate is out of reach of a colon here. -/
def isStale (c : Cursor) (k : Candidate) : Bool := k.line < c.line || k.index + 1024 < c.index

/-- Drops all candidates that are out of reach. -/
def dropStale? (s : Scan) : Option Scan :=
  let stale := fun (k : Option Candidate) => k.any (isStale s.cursor)
  if s.keys.any fun k => stale k && k.any (·.required) then none
  else some { s with keys := s.keys.map fun k => if stale k then none else k }

/-! ## Blanks, comments and lines -/

/-- Skips blanks, comments and line breaks up to the next token. A byte order mark may start a line,
and tabs stand only where no key can start. -/
def skipToToken : Nat → Scan → Scan
  | 0, s => s
  | n + 1, s =>
    let c := if s.cursor.column = 0 && s.cursor.startsWith '\ufeff' then s.cursor.skip else s.cursor
    let tabs := s.inFlow || !s.keyAllowed
    let c := (c.skipWhile fun x => x = ' ' || (tabs && x = '\t')).skipComment
    match c.readBreak? with
    | some (_, c) => skipToToken n { s with cursor := c, keyAllowed := !s.inFlow || s.keyAllowed }
    | none => { s with cursor := c }

/-! ## Directives and tags -/

/-- Reads a number of at most nine digits. -/
def readNumber? (c : Cursor) : Option (Nat × Cursor) :=
  let digits := c.rest.takeWhile Char.isDigit
  if digits.isEmpty || 9 < digits.length then none
  else some (decimalValue digits, c.skip digits.length)

/-- Reads the handle of a tag. In a directive it ends in an exclamation mark. -/
def readHandle? (directive : Bool) (c : Cursor) : Option (List Char × Cursor) :=
  if !c.startsWith '!' then none
  else
    let name := c.skip.rest.takeWhile isNameChar
    let c := c.skip (name.length + 1)
    if c.startsWith '!' then some ('!' :: name ++ ['!'], c.skip)
    else if directive && !name.isEmpty then none
    else some ('!' :: name, c)

/-- Whether the character may stand in a tag; between angle brackets there are a few more. -/
def isTagChar (verbatim : Bool) (c : Char) : Bool :=
  isNameChar c || [';', '/', '?', ':', '@', '&', '=', '+', '$', '.', '%', '!', '~', '*', '\'', '(',
    ')'].contains c || (verbatim && [',', '[', ']'].contains c)

/-- The bytes that escapes with percent signs stand for, up to the first that is no escape. -/
def percentBytes : List Char → List Nat × List Char
  | '%' :: a :: b :: rest =>
    match hexValue? a, hexValue? b with
    | some a, some b =>
      let (more, rest) := percentBytes rest
      ((16 * a + b) :: more, rest)
    | _, _ => ([], '%' :: a :: b :: rest)
  | rest => ([], rest)

/-- The text of a tag with its escapes resolved. -/
def unescape? : Nat → List Char → Option (List Char)
  | 0, _ => none
  | _ + 1, [] => some []
  | n + 1, '%' :: rest =>
    match percentBytes ('%' :: rest) with
    | ([], _) => none
    | (bytes, rest) => do
      let text ← String.fromUTF8? (ByteArray.mk (bytes.map Nat.toUInt8).toArray)
      return text.toList ++ (← unescape? n rest)
  | n + 1, c :: rest => (unescape? n rest).map (c :: ·)

/-- Reads the characters of a tag. -/
def readTagText? (verbatim : Bool) (c : Cursor) : Option (List Char × Cursor) :=
  let text := c.rest.takeWhile (isTagChar verbatim)
  (unescape? (text.length + 1) text).map fun t => (t, c.skip text.length)

/-- Reads a tag. -/
def readTag? (c : Cursor) : Option (Token × Cursor) :=
  if c.peek? 1 = some '<' then do
    let (text, c) ← readTagText? true (c.skip 2)
    if text.isEmpty || !c.startsWith '>' then none
    else return (.tag "" (String.ofList text), c.skip)
  else do
    let (handle, c) ← readHandle? false c
    let (text, c) ← readTagText? false c
    if 1 < handle.length && handle.getLast? = some '!' then
      if text.isEmpty then none
      else return (.tag (String.ofList handle) (String.ofList text), c)
    else
      let text := handle.drop 1 ++ text
      if text.isEmpty then return (.tag "" "!", c)
      else return (.tag "!" (String.ofList text), c)

/-- Reads a directive. -/
def readDirective? (c : Cursor) : Option (Token × Cursor) := do
  let name := c.skip.rest.takeWhile isNameChar
  let c := c.skip (name.length + 1)
  if !endsWord c.head? then none
  else
    let c := c.skipWhile isGap
    let (token, c) ←
      if name = ['Y', 'A', 'M', 'L'] then do
        let (major, c) ← readNumber? c
        if !c.startsWith '.' then none
        else
          let (minor, c) ← readNumber? c.skip
          pure (Token.version major minor, c)
      else if name = ['T', 'A', 'G'] then do
        let (handle, c) ← readHandle? true c
        if !c.head?.any isGap then none
        else
          let (expansion, c) ← readTagText? true (c.skipWhile isGap)
          if expansion.isEmpty || !endsWord c.head? then none
          else pure (Token.handle (String.ofList handle) (String.ofList expansion), c)
      else none
    let c := (c.skipWhile isGap).skipComment
    if endsLine c.head? then return (token, c.skipBreak) else none

/-! ## One token after the other -/

/-- Reads the name of an anchor or an alias. -/
def readName? (c : Cursor) : Option (String × Cursor) :=
  let name := c.skip.rest.takeWhile isNameChar
  let c := c.skip (name.length + 1)
  let ends := endsWord c.head? ||
    c.head?.any (['?', ':', ',', ']', '\x7d', '%', '@', '\x60'].contains ·)
  if name.isEmpty || !ends then none else some (String.ofList name, c)

/-- Adds an entry, key or value that a block may hold, opening the block where it is missing. -/
def blockItem? (s : Scan) (block item : Token) (keyAllowed : Bool) : Option Scan :=
  if !s.inFlow && !s.keyAllowed then none
  else ((s.openBlock s.cursor.column s.tokens.length block).dropKey?).map fun s =>
    s.take 1 item keyAllowed

/-- Adds a value. The candidate before it, if there is one, is a key. -/
def value? (s : Scan) : Option Scan :=
  match s.keys with
  | some k :: keys =>
    let s := { s with keys := none :: keys }.insert k.before .key
    some ((s.openBlock k.column k.before .blockMapping).take 1 .value false)
  | _ => s.blockItem? .blockMapping .value !s.inFlow

/-- Adds a token that may be a key. -/
def keyLike? (s : Scan) (read : Cursor → Option (Token × Cursor)) : Option Scan := do
  let s ← s.noteKey?
  let (t, c) ← read s.cursor
  return { s with cursor := c, keyAllowed := false }.push t

/-- Adds a plain scalar. A line break after it allows for a key again. -/
def plain? (s : Scan) : Option Scan := do
  let s ← s.noteKey?
  let (text, broken, c) ← readPlain s.inFlow s.margin s.cursor.rest.length [] [] false s.cursor
  return { s with cursor := c, keyAllowed := broken }.push (.scalar .plain (String.ofList text))

/-- Adds a scalar between quotes. -/
def quoted? (s : Scan) (style : Style) : Option Scan :=
  s.keyLike? fun c =>
    (readQuoted (style = .single) (c.rest.length + 1) [] c.skip).map fun (text, c) =>
      (.scalar style (String.ofList text), c)

/-- Adds a block scalar. -/
def block? (s : Scan) (style : Style) : Option Scan := do
  let s ← s.dropKey?
  let (text, c) ← readBlock (style = .folded) s.indent s.cursor.skip
  return { s with cursor := c, keyAllowed := true }.push (.scalar style (String.ofList text))

/-- Adds the mark of a document or a directive. -/
def outside? (s : Scan) (read : Cursor → Option (Token × Cursor)) : Option Scan := do
  let s ← (s.closeBlocks (-1)).dropKey?
  let (t, c) ← read s.cursor
  return { s with cursor := c, keyAllowed := false }.push t

/-- Opens a flow collection. -/
def openFlow? (s : Scan) (t : Token) : Option Scan :=
  s.noteKey?.map fun s => { s with keys := none :: s.keys }.take 1 t true

/-- Closes a flow collection. -/
def closeFlow? (s : Scan) (t : Token) : Option Scan :=
  s.dropKey?.map fun s =>
    { s with keys := if s.inFlow then s.keys.drop 1 else s.keys }.take 1 t false

/-- Whether a plain scalar can start here. -/
def startsPlain (s : Scan) (x : Char) (next : Option Char) : Bool :=
  !(['-', '?', ':', ',', '[', ']', '\x7b', '\x7d', '#', '&', '*', '!', '|', '>', '\'', '"', '%',
      '@', '\x60'].contains x || endsWord (some x)) ||
    (x = '-' && !next.any isGap) || (!s.inFlow && (x = '?' || x = ':') && !endsWord next)

/-- Reads the token that starts here with the character `x`. -/
def token? (s : Scan) (x : Char) : Option Scan :=
  let c := s.cursor
  let next := c.peek? 1
  let alone := endsWord next
  if c.column = 0 && x = '%' then s.outside? readDirective?
  else if c.atMark '-' then s.outside? fun c => some (.documentStart, c.skip 3)
  else if c.atMark '.' then s.outside? fun c => some (.documentEnd, c.skip 3)
  else if x = '[' then s.openFlow? .flowSequence
  else if x = '\x7b' then s.openFlow? .flowMapping
  else if x = ']' then s.closeFlow? .flowSequenceEnd
  else if x = '\x7d' then s.closeFlow? .flowMappingEnd
  else if x = ',' then s.dropKey?.map fun s => s.take 1 .flowEntry true
  else if x = '-' && alone then s.blockItem? .blockSequence .blockEntry true
  else if x = '?' && (s.inFlow || alone) then s.blockItem? .blockMapping .key !s.inFlow
  else if x = ':' && (s.inFlow || alone) then s.value?
  else if x = '*' then s.keyLike? fun c => (readName? c).map fun (name, c) => (.aliasOf name, c)
  else if x = '&' then s.keyLike? fun c => (readName? c).map fun (name, c) => (.anchor name, c)
  else if x = '!' then
    s.keyLike? fun c => (readTag? c).bind fun (t, c) =>
      if endsWord c.head? || (s.inFlow && c.startsWith ',') then some (t, c) else none
  else if x = '|' && !s.inFlow then s.block? .literal
  else if x = '>' && !s.inFlow then s.block? .folded
  else if x = '\'' then s.quoted? .single
  else if x = '"' then s.quoted? .double
  else if s.startsPlain x next then s.plain?
  else none

/-- Reads the tokens that are left. The number bounds the steps, each of which reads a character. -/
def run? : Nat → Scan → Option (List Token)
  | 0, _ => none
  | n + 1, s => do
    let s ← (skipToToken (s.cursor.rest.length + 1) s).dropStale?
    let s := s.closeBlocks s.cursor.column
    match s.cursor.head? with
    | none => return (← (s.closeBlocks (-1)).dropKey?).tokens.reverse
    | some x => run? n (← s.token? x)

end Scan

/-- The tokens of a text. -/
def Token.scan? (text : String) : Option (List Token) :=
  let cs := text.toList
  if cs.all isAllowed then Scan.run? (cs.length + 1) { cursor := ⟨cs, 0, 0, 0⟩ } else none

end Registrar.Yaml
