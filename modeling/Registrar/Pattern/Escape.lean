import Registrar.Pattern.Node
import Registrar.Text.Folded

/-!
# Escapes and flags of patterns

A backslash gives a character, a set of characters or a condition on a place. What it gives depends
on the flags in force. All readers here take the characters of the pattern that are left, and give
back those that are left after what they read; they answer nothing where the pattern is ill-formed.
-/

namespace Registrar.Pattern

open Text

/-! ## Flags -/

/-- The flags in force at some point of a pattern. -/
structure Flags where
  /-- `i`: case does not count. -/
  caseless : Bool := false
  /-- `m`: lines have edges of their own. -/
  manyLines : Bool := false
  /-- `s`: a dot stands for any character, line feeds included. -/
  dotAll : Bool := false
  /-- `u`: classes are those of Unicode, otherwise those of ASCII. -/
  unicode : Bool := true
  /-- `R`: a carriage return also ends a line. -/
  crlf : Bool := false
  /-- `x`: blanks and comments do not count. -/
  verbose : Bool := false

/-- The flags with one of them set or cleared. `U` turns greed around, which decides nothing about
whether there is a match. -/
def Flags.put? (f : Flags) (letter : Char) (on : Bool) : Option Flags :=
  match letter with
  | 'i' => some { f with caseless := on }
  | 'm' => some { f with manyLines := on }
  | 's' => some { f with dotAll := on }
  | 'U' => some f
  | 'u' => some { f with unicode := on }
  | 'R' => some { f with crlf := on }
  | 'x' => some { f with verbose := on }
  | _ => none

/-- The flags as letters change them: those after a hyphen are cleared. -/
def Flags.change? (on : Bool) : List Char → Flags → Option Flags
  | [], f => some f
  | c :: cs, f =>
    if c = '-' then Flags.change? false cs f else (f.put? c on).bind (Flags.change? on cs)

/-- Reads the letters before a colon or a closing parenthesis. No letter comes twice, and a hyphen
is not the last. -/
def readFlags (f : Flags) (cs : List Char) : Option (Flags × List Char) :=
  let letters := cs.takeWhile fun c => c ≠ ':' && c ≠ ')'
  if letters.Nodup && letters.getLast? ≠ some '-' then
    (Flags.change? true letters f).map (·, cs.drop letters.length)
  else none

/-! ## Blanks and comments -/

mutual

/-- Skips blanks and comments. -/
def skipVerbose : List Char → List Char
  | [] => []
  | c :: cs => if isBlank c then skipVerbose cs else if c = '#' then skipComment cs else c :: cs

/-- Skips the rest of a comment. -/
def skipComment : List Char → List Char
  | [] => []
  | c :: cs => if c = '\n' then skipVerbose cs else skipComment cs

end

/-- Skips what does not count. -/
def Flags.skip (f : Flags) (cs : List Char) : List Char := if f.verbose then skipVerbose cs else cs

/-! ## Numbers -/

/-- The character with the code point, unless it is none. -/
def charOf? (n : Nat) : Option Char := if n.isValidChar then some (Char.ofNat n) else none

/-- Reads a fixed number of hexadecimal digits; `value` is that of the digits before. -/
def readDigits (f : Flags) (value : Nat) : Nat → List Char → Option (Nat × List Char)
  | 0, cs => some (value, cs)
  | n + 1, c :: cs => (hexValue? c).bind fun d => readDigits f (16 * value + d) n (f.skip cs)
  | _ + 1, [] => none

/-- The characters up to a closing brace that count, and what follows the brace. -/
def readBraced (f : Flags) : Nat → List Char → Option (List Char × List Char)
  | 0, _ => none
  | n + 1, cs =>
    match f.skip cs with
    | [] => none
    | c :: cs =>
      if c = '\x7d' then some ([], cs)
      else (readBraced f n cs).map fun (name, rest) => (c :: name, rest)

/-- Reads hexadecimal digits between braces, after the opening one. -/
def readHexBraced (f : Flags) (cs : List Char) : Option (Char × List Char) := do
  let (digits, rest) ← readBraced f (cs.length + 1) cs
  let c ← charOf? (← number? 16 digits)
  return (c, f.skip rest)

/-! ## Sets of characters -/

/-- The set with what differs from it in case, if case does not count. -/
def Flags.fold (f : Flags) (s : CodeSet) : CodeSet :=
  if !f.caseless then s else if f.unicode then s.folded else s.foldedAscii

/-- The complement of a set. Without Unicode it would also hold bytes that are no characters, and
there is none. -/
def Flags.negate? (f : Flags) (negated : Bool) (s : CodeSet) : Option CodeSet :=
  if !negated then some s else if f.unicode then some s.compl else none

/-- The set that a letter after a backslash stands for. -/
def Flags.perl? (f : Flags) (c : Char) : Option CodeSet :=
  let ascii := fun (test : Char → Bool) => CodeSet.ofRanges (Property.asciiRanges test)
  match c.toLower with
  | 'd' => f.negate? c.isUpper (if f.unicode then Property.digits else ascii Char.isDigit)
  | 's' =>
    f.negate? c.isUpper (if f.unicode then Property.whiteSpace
      else ascii fun c => c = ' ' || '\t' ≤ c && c ≤ '\r')
  | 'w' =>
    f.negate? c.isUpper (if f.unicode then Property.wordCharacters
      else ascii fun c => c.isAlphanum || c = '_')
  | _ => none

/-- The parts of a text before and after the first place where a separator stands. -/
def splitAt? (separator : List Char) : List Char → Option (List Char × List Char)
  | [] => none
  | c :: cs =>
    if separator.isPrefixOf (c :: cs) then some ([], (c :: cs).drop separator.length)
    else (splitAt? separator cs).map fun (a, b) => (c :: a, b)

/-- The set of characters with a property, as `\p` names it: a name, or a property and a value
with `=`, `:` or `!=` between them. Says also whether the complement is meant. -/
def property? (name : List Char) : Option (CodeSet × Bool) :=
  let valued := fun (p : List Char × List Char) =>
    Property.valued? (String.ofList p.1) (String.ofList p.2)
  match splitAt? ['!', '='] name, splitAt? [':'] name, splitAt? ['='] name with
  | some p, _, _ => (valued p).map (·, true)
  | none, some p, _ | none, none, some p => (valued p).map (·, false)
  | none, none, none => (Property.named? (String.ofList name)).map (·, false)

/-- Reads a property after `p` or `P`. -/
def readProperty (f : Flags) (negated : Bool) (cs : List Char) : Option (CodeSet × List Char) := do
  let (name, rest) ← match f.skip cs with
    | [] => none
    | c :: cs =>
      if c = '\x7b' then readBraced f (cs.length + 1) cs
      else if c = '\\' then none
      else some ([c], f.skip cs)
  if !f.unicode then none
  else
    let (set, inverted) ← property? name
    let set ← f.negate? (negated != inverted) (f.fold set)
    return (set, rest)

/-! ## Escapes -/

/-- What a backslash gives. -/
inductive Escape
  | char (c : Char)
  | set (s : CodeSet)
  | edge (e : Edge)

/-- The condition on words that stands between braces after `\b`. -/
def wordEdge? (name : String) : Option WordEdge :=
  match name with
  | "start" => some .start
  | "end" => some .stop
  | "start-half" => some .startHalf
  | "end-half" => some .stopHalf
  | _ => none

/-- Reads what follows `\b`. A brace belongs to it if a letter or a hyphen is in it first. -/
def readWordEdge (f : Flags) (cs : List Char) : Option (Escape × List Char) :=
  let isLetter := fun (c : Char) => c.isAlpha || c = '-'
  let edge := fun (e : WordEdge) => Escape.edge (.word e !f.unicode)
  match cs with
  | '\x7b' :: rest =>
    match f.skip rest with
    | [] => none
    | c :: _ =>
      if isLetter c then do
        let (name, rest) ← readBraced f (rest.length + 1) rest
        let e ← wordEdge? (String.ofList name)
        return (edge e, rest)
      else some (edge .any, cs)
  | _ => some (edge .any, cs)

/-- Reads hexadecimal digits after a letter, `n` of them unless they stand between braces. Without
Unicode two digits make a byte, which is a character in ASCII only. -/
def readHex (f : Flags) (n : Nat) (cs : List Char) : Option (Escape × List Char) :=
  match f.skip cs with
  | '\x7b' :: cs => (readHexBraced f cs).map fun (c, rest) => (.char c, rest)
  | cs => do
    let (value, rest) ← readDigits f 0 n cs
    if n = 2 && !f.unicode && 0x80 ≤ value then none
    else return (.char (← charOf? value), rest)

/-- Reads what follows a backslash. Any other character of ASCII than letters, digits and angle
brackets stands for itself. -/
def readEscape (f : Flags) : List Char → Option (Escape × List Char)
  | [] => none
  | c :: cs =>
    match c with
    | 'x' => readHex f 2 cs
    | 'u' => readHex f 4 cs
    | 'U' => readHex f 8 cs
    | 'p' => (readProperty f false cs).map fun (s, rest) => (.set s, rest)
    | 'P' => (readProperty f true cs).map fun (s, rest) => (.set s, rest)
    | 'd' | 'D' | 's' | 'S' | 'w' | 'W' => (f.perl? c).map fun s => (.set s, cs)
    | 'a' => some (.char '\x07', cs)
    | 'f' => some (.char '\x0c', cs)
    | 't' => some (.char '\t', cs)
    | 'n' => some (.char '\n', cs)
    | 'r' => some (.char '\r', cs)
    | 'v' => some (.char '\x0b', cs)
    | 'A' => some (.edge .textStart, cs)
    | 'z' => some (.edge .textEnd, cs)
    | 'b' => readWordEdge f cs
    | 'B' => some (.edge (.word .none !f.unicode), cs)
    | '<' => some (.edge (.word .start !f.unicode), cs)
    | '>' => some (.edge (.word .stop !f.unicode), cs)
    | _ => if c.toNat < 0x80 && !c.isAlphanum then some (.char c, cs) else none

end Registrar.Pattern
