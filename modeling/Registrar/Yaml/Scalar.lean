import Registrar.Text.Digit
import Registrar.Yaml.Cursor

/-!
# Scalars in YAML text

The text of a scalar, be it quoted, plain or a block. Lines of quoted and plain scalars are folded:
a single break becomes a space, and of more breaks all but the first are kept (`Gap.text`). A number
bounds the steps of each reader, each of which reads a character.
-/

namespace Registrar.Yaml

open Text

/-! ## Gaps -/

/-- What stands between two words of a scalar: blanks, or a first line break and others after it. -/
structure Gap where
  blanks : List Char := []
  first : Option Char := none
  others : List Char := []

/-- The text that a gap stands for. -/
def Gap.text (g : Gap) (broken : Bool) : List Char :=
  if !broken then g.blanks
  else if g.first = some '\n' then (if g.others.isEmpty then [' '] else g.others)
  else g.first.toList ++ g.others

/-- Reads a gap, of which `g` is read; `broken` says whether it is known to hold a line break. Tabs
must not stand left of column `indent` after a break. -/
def readGap (indent : Nat) : Nat → Gap → Bool → Cursor → Option (Gap × Bool × Cursor)
  | 0, g, broken, c => some (g, broken, c)
  | n + 1, g, broken, c =>
    match c.head?, c.readBreak? with
    | none, _ => some (g, broken, c)
    | some _, some (b, next) =>
      if broken then readGap indent n { g with others := g.others ++ [b] } true next
      else readGap indent n ⟨[], some b, []⟩ true next
    | some x, none =>
      if !isGap x then some (g, broken, c)
      else if broken then
        if c.column < indent && x = '\t' then none else readGap indent n g true c.skip
      else readGap indent n { g with blanks := g.blanks ++ [x] } false c.skip

/-! ## Quoted scalars -/

/-- The character that a letter after a backslash stands for. -/
def escapeOf? (c : Char) : Option Char :=
  match c with
  | '0' => some '\x00'
  | 'a' => some '\x07'
  | 'b' => some '\x08'
  | 't' | '\t' => some '\t'
  | 'n' => some '\n'
  | 'v' => some '\x0b'
  | 'f' => some '\x0c'
  | 'r' => some '\r'
  | 'e' => some '\x1b'
  | ' ' => some ' '
  | '"' => some '"'
  | '/' => some '/'
  | '\\' => some '\\'
  | 'N' => some '\u0085'
  | '_' => some '\u00a0'
  | 'L' => some '\u2028'
  | 'P' => some '\u2029'
  | _ => none

/-- The number of hexadecimal digits that follow a letter after a backslash. -/
def escapeWidth? (c : Char) : Option Nat :=
  match c with
  | 'x' => some 2
  | 'u' => some 4
  | 'U' => some 8
  | _ => none

/-- Reads what follows a backslash. -/
def readEscape (c : Cursor) : Option (Char × Cursor) := do
  let x ← c.head?
  match escapeWidth? x with
  | none => return (← escapeOf? x, c.skip)
  | some n =>
    let digits := (c.rest.drop 1).take n
    let value ← number? 16 digits
    if digits.length = n && value.isValidChar then return (Char.ofNat value, c.skip (n + 1))
    else none

/-- Reads the rest of a scalar between quotes, after the text read so far, the latest first. -/
def readQuoted (single : Bool) : Nat → List Char → Cursor → Option (List Char × Cursor)
  | 0, _, _ => none
  | n + 1, text, c =>
    let afterGap := fun (broken : Bool) (c : Cursor) =>
      (readGap 0 c.rest.length {} broken c).bind fun (g, broken, c) =>
        readQuoted single n ((g.text broken).reverse ++ text) c
    if c.atMarker then none
    else match c.head? with
      | none => none
      | some x =>
        if endsWord (some x) then afterGap false c
        else if x = '\'' && single then
          if c.peek? 1 = some '\'' then readQuoted single n ('\'' :: text) (c.skip 2)
          else some (text.reverse, c.skip)
        else if x = '"' && !single then some (text.reverse, c.skip)
        else if x = '\\' && !single then
          if endsLine (c.peek? 1) && (c.peek? 1).isSome then afterGap true c.skip.skipBreak
          else (readEscape c.skip).bind fun (x, c) => readQuoted single n (x :: text) c
        else readQuoted single n (x :: text) c.skip

/-! ## Plain scalars -/

/-- Whether a character of a plain scalar ends it. In flow a colon before an indicator is an error.
-/
def plainEnds? (flow : Bool) (x : Char) (next : Option Char) : Option Bool :=
  if flow && x = ':' && next.any ([',', '?', '[', ']', '\x7b', '\x7d'].contains ·) then none
  else some ((x = ':' && endsWord next) ||
    (flow && [',', '[', ']', '\x7b', '\x7d'].contains x))

/-- Reads the rest of a plain scalar, after the text read so far, the latest first, and the gap
after it. Says also whether a line break was read after the scalar. -/
def readPlain (flow : Bool) (indent : Nat) :
    Nat → List Char → List Char → Bool → Cursor → Option (List Char × Bool × Cursor)
  | 0, text, _, broken, c => some (text.reverse, broken, c)
  | n + 1, text, gap, broken, c =>
    let stop := some (text.reverse, broken, c)
    match c.head? with
    | none => stop
    | some x =>
      if endsWord (some x) then
        (readGap indent c.rest.length {} false c).bind fun (g, broken, c) =>
          if (!flow && c.column < indent) || c.atMarker || c.startsWith '#' then
            some (text.reverse, broken, c)
          else readPlain flow indent n text (g.text broken) broken c
      else match plainEnds? flow x (c.peek? 1) with
        | none => none
        | some true => stop
        | some false => readPlain flow indent n (x :: (gap.reverse ++ text)) [] false c.skip

/-! ## Block scalars -/

/-- What becomes of the line breaks after a block. -/
inductive Chomping
  /-- All are dropped. -/
  | strip
  /-- The first is kept. -/
  | clip
  | keep
  deriving DecidableEq, Repr

/-- Reads the indicators of a block: what becomes of its end, and how far it is indented. -/
def readHeader (c : Cursor) : Option (Chomping × Option Nat × Cursor) :=
  let chomping := fun (c : Cursor) =>
    if c.startsWith '+' then (Chomping.keep, c.skip)
    else if c.startsWith '-' then (.strip, c.skip) else (.clip, c)
  let digit := fun (c : Cursor) => match c.head? with
    | some x =>
      if x = '0' then none
      else if x.isDigit then some (hexValue? x, c.skip) else some (none, c)
    | none => some (none, c)
  match chomping c with
  | (.clip, c) =>
    (digit c).map fun (n, c) =>
      if n.isSome then
        let (chomp, c) := chomping c
        (chomp, n, c)
      else (.clip, n, c)
  | (chomp, c) => (digit c).map fun (n, c) => (chomp, n, c)

/-- Reads indentation and empty lines before a line of a block; `widest` is the greatest indentation
met, and `breaks` are the breaks read. Without a known indentation a tab must not stand here, nor
left of the block. -/
def readEmptyLines (indent : Option Nat) :
    Nat → Nat → List Char → Cursor → Option (Nat × List Char × Cursor)
  | 0, widest, breaks, c => some (widest, breaks, c)
  | n + 1, widest, breaks, c =>
    let spaces := (c.rest.takeWhile (· = ' ')).length
    let c := c.skip (match indent with
      | some i => min spaces (i - c.column)
      | none => spaces)
    let widest := max widest c.column
    if c.startsWith '\t' && indent.all (c.column < ·) then none
    else match c.readBreak? with
      | some (b, next) => readEmptyLines indent n widest (breaks ++ [b]) next
      | none => some (widest, breaks, c)

/-- Reads the lines of a block, after the text read so far: `first` is the break of the last line,
`others` are those of empty lines since, and `blank` tells whether the last line began with a
blank. -/
def readLines (folded : Bool) (indent : Nat) :
    Nat → List Char → Option Char → List Char → Bool → Cursor →
      Option (List Char × List Char × List Char × Cursor)
  | 0, text, first, others, _, c => some (text, first.toList, others, c)
  | n + 1, text, first, others, blank, c =>
    if c.column ≠ indent || c.rest.isEmpty then some (text, first.toList, others, c)
    else
      let startsBlank := c.head?.any isGap
      let joint :=
        if folded && first = some '\n' && !blank && !startsBlank then
          (if others.isEmpty then [' '] else [])
        else first.toList
      let line := c.rest.takeWhile fun x => !isBreak x
      let text := text ++ joint ++ others ++ line
      let c := c.skip line.length
      let (first, c) := match c.readBreak? with
        | some (b, next) => (some b, next)
        | none => (none, c)
      (readEmptyLines (some indent) (c.rest.length + 1) 0 [] c).bind fun (_, others, c) =>
        readLines folded indent n text first others startsBlank c

/-- Reads a block after its indicator. The block around it is indented by `outer`, which is negative
at the top. -/
def readBlock (folded : Bool) (outer : Int) (c : Cursor) : Option (List Char × Cursor) := do
  let (chomping, increment, c) ← readHeader c
  let c := (c.skipWhile isGap).skipComment
  if !endsLine c.head? then none
  else
    let c := c.skipBreak
    let known := increment.map fun n => (max outer 0).toNat + n
    let (widest, breaks, c) ← readEmptyLines known (c.rest.length + 1) 0 [] c
    let indent := known.getD (max (max widest (outer + 1).toNat) 1)
    let (text, first, others, c) ←
      readLines folded indent (c.rest.length + 1) [] none breaks false c
    let ending := match chomping with
      | .strip => []
      | .clip => first
      | .keep => first ++ others
    return (text ++ ending, c)

end Registrar.Yaml
