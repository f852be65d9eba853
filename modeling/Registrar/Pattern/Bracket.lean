import Registrar.Pattern.Escape

/-!
# Bracketed classes

A class between brackets is a union of characters, ranges, escapes, named classes of ASCII and
classes in brackets of their own. Unions can be joined by `&&`, `--` and `~~`, which bind equally
and to the left. The depth of a class counts how far its parts are nested.
-/

namespace Registrar.Pattern

open Text

/-- A set of characters with the depth of its nesting. -/
structure Nested where
  set : CodeSet
  depth : Nat

/-- The operations on classes. -/
inductive SetOp
  | inter
  | diff
  | symmDiff

/-- The result of an operation. -/
def SetOp.apply (op : SetOp) (s t : CodeSet) : CodeSet :=
  match op with
  | inter => s.inter t
  | diff => s.diff t
  | symmDiff => s.symmDiff t

/-- What is open while a class is read: a bracket, with the members read before it, or an operation
with its first operand. -/
inductive Opened
  | bracket (before : List Nested) (negated : Bool)
  | operation (op : SetOp) (first : Nested)

/-- The union of the members of a class. -/
def unite (members : List Nested) : Nested :=
  match members with
  | [] => ⟨.empty, 0⟩
  | [m] => m
  | _ => ⟨CodeSet.ofRanges (members.flatMap (·.set.ranges)),
      1 + (members.map (·.depth)).foldl max 0⟩

/-- Applies the operation that is open, if one is, to its operands. -/
def closeOperation (f : Flags) (opened : List Opened) (second : Nested) :
    Nested × List Opened :=
  match opened with
  | .operation op first :: opened =>
    (⟨op.apply (f.fold first.set) (f.fold second.set), 1 + max first.depth second.depth⟩, opened)
  | _ => (second, opened)

/-- The named classes of ASCII. -/
def asciiClass? (name : String) : Option (Char → Bool) :=
  match name with
  | "alnum" => some Char.isAlphanum
  | "alpha" => some Char.isAlpha
  | "ascii" => some fun _ => true
  | "blank" => some fun c => c = '\t' || c = ' '
  | "cntrl" => some fun c => c < ' ' || c = '\x7f'
  | "digit" => some Char.isDigit
  | "graph" => some fun c => '!' ≤ c && c ≤ '~'
  | "lower" => some Char.isLower
  | "print" => some fun c => ' ' ≤ c && c ≤ '~'
  | "punct" => some fun c => '!' ≤ c && c ≤ '~' && !c.isAlphanum
  | "space" => some fun c => c = ' ' || '\t' ≤ c && c ≤ '\r'
  | "upper" => some Char.isUpper
  | "word" => some fun c => c.isAlphanum || c = '_'
  | "xdigit" => some fun c => (hexValue? c).isSome
  | _ => none

/-- Reads a named class such as `[:alpha:]`, if one stands here. -/
def readAsciiClass (cs : List Char) : Option (CodeSet × Bool × List Char) :=
  match cs with
  | '[' :: ':' :: cs =>
    let (negated, cs) := match cs with
      | '^' :: cs => (true, cs)
      | _ => (false, cs)
    let name := cs.takeWhile (· ≠ ':')
    match cs.drop name.length with
    | ':' :: ']' :: rest =>
      (asciiClass? (String.ofList name)).map fun test =>
        (CodeSet.ofRanges (Property.asciiRanges test), negated, rest)
    | _ => none
  | _ => none

/-- Reads a character or an escape. -/
def readMember (f : Flags) : List Char → Option (Escape × List Char)
  | [] => none
  | '\\' :: cs => readEscape f cs
  | c :: cs => some (.char c, cs)

/-- Whether a hyphen, with what follows it, makes a range. -/
def makesRange (f : Flags) (cs : List Char) : Bool :=
  let next := if f.verbose then
      match cs.dropWhile isBlank with
      | '#' :: cs => (cs.dropWhile isBlank).head?
      | cs => cs.head?
    else cs.head?
  next ≠ some ']' && next ≠ some '-'

/-- A character as a member of a class. Without Unicode it is one of ASCII. -/
def memberChar? (f : Flags) (c : Char) : Option Nat :=
  if f.unicode || c.toNat < 0x80 then some c.toNat else none

/-- Reads a character, a range or an escape that is a set. -/
def readRange (f : Flags) (cs : List Char) : Option (CodeSet × List Char) := do
  let (first, cs) ← readMember f cs
  let rest := f.skip cs
  match rest with
  | [] => none
  | c :: after =>
    if c = '-' && makesRange f after then
      let (last, rest) ← readMember f (f.skip after)
      match first, last with
      | .char a, .char b =>
        let a ← memberChar? f a
        let b ← memberChar? f b
        if a ≤ b then return (⟨[(a, b)]⟩, rest) else none
      | _, _ => none
    else
      match first with
      | .char a => return (.single (← memberChar? f a), rest)
      | .set s => return (s, rest)
      | .edge _ => none

/-- Reads the hyphens that a class starts with, which stand for themselves. -/
def readHyphens (f : Flags) : Nat → List Nested → List Char → List Nested × List Char
  | 0, members, cs => (members, cs)
  | n + 1, members, cs =>
    match cs with
    | '-' :: cs => readHyphens f n (⟨.single 0x2D, 0⟩ :: members) (f.skip cs)
    | _ => (members, cs)

/-- Reads how a class starts, after its bracket: a circumflex, hyphens, and a closing bracket that
stands for itself where it comes first. -/
def readOpening (f : Flags) (cs : List Char) : Option (Bool × List Nested × List Char) :=
  let (negated, cs) := match f.skip cs with
    | '^' :: cs => (true, f.skip cs)
    | cs => (false, cs)
  let (members, cs) := readHyphens f cs.length [] cs
  match members, cs with
  | _, [] => none
  | [], ']' :: cs =>
    match f.skip cs with
    | [] => none
    | cs => some (negated, [⟨.single 0x5D, 0⟩], cs)
  | members, cs => some (negated, members, cs)

/-- Reads the rest of a class whose open brackets and operations are given, the innermost first,
with the members read since. The number bounds the steps, each of which reads a character. -/
def readClassFrom (f : Flags) :
    Nat → List Opened → List Nested → List Char → Option (Nested × List Char)
  | 0, _, _, _ => none
  | n + 1, opened, members, cs =>
    let operation := fun (op : SetOp) (rest : List Char) =>
      let (first, opened) := closeOperation f opened (unite members)
      readClassFrom f n (.operation op first :: opened) [] rest
    match f.skip cs with
    | [] => none
    | '[' :: cs =>
      match readAsciiClass ('[' :: cs) with
      | some (set, negated, rest) =>
        (f.negate? negated (f.fold set)).bind fun set =>
          readClassFrom f n opened (⟨set, 0⟩ :: members) rest
      | none =>
        (readOpening f cs).bind fun (negated, inner, rest) =>
          readClassFrom f n (.bracket members negated :: opened) inner rest
    | ']' :: rest =>
      let (whole, opened) := closeOperation f opened (unite members)
      match opened with
      | .bracket before negated :: opened =>
        (f.negate? negated (f.fold whole.set)).bind fun set =>
          let done : Nested := ⟨set, 1 + whole.depth⟩
          if opened.isEmpty then some (done, rest)
          else readClassFrom f n opened (done :: before) rest
      | _ => none
    | '&' :: '&' :: rest => operation .inter rest
    | '-' :: '-' :: rest => operation .diff rest
    | '~' :: '~' :: rest => operation .symmDiff rest
    | cs =>
      (readRange f cs).bind fun (set, rest) =>
        readClassFrom f n opened (⟨set, 0⟩ :: members) rest

/-- Reads a class after its opening bracket. -/
def readClass (f : Flags) (cs : List Char) : Option (Nested × List Char) :=
  (readOpening f cs).bind fun (negated, members, rest) =>
    readClassFrom f (rest.length + 1) [.bracket [] negated] members rest

end Registrar.Pattern
