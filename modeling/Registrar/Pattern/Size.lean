import Registrar.Pattern.Node

/-!
# The size of patterns

A pattern is refused when the automaton for it would take too much memory, so that a short pattern
with large repetitions cannot ask for any amount of it. The automaton reads the bytes of UTF-8, once
forwards and once backwards. `Node.size` is the memory of its states, computed without building it:
a state takes 32 bytes, each range of bytes that leads out of one 8 more, each branch 4 more.
-/

namespace Registrar.Pattern

open Text

/-- The memory of a state. -/
def stateSize : Nat := 32

/-- The memory that the automaton of a pattern may take. -/
def sizeLimit : Nat := 10 * 1024 * 1024

/-! ## Sets of characters as sequences of bytes -/

/-- The bytes of a code point, for as many bytes as the encoding has. -/
def bytesOf (n : Nat) : List Nat :=
  if n < 0x80 then [n]
  else if n < 0x800 then [0xC0 + n / 0x40, 0x80 + n % 0x40]
  else if n < 0x10000 then [0xE0 + n / 0x1000, 0x80 + n / 0x40 % 0x40, 0x80 + n % 0x40]
  else [0xF0 + n / 0x40000, 0x80 + n / 0x1000 % 0x40, 0x80 + n / 0x40 % 0x40, 0x80 + n % 0x40]

/-- Where a range is to be cut so that its encodings are a product of ranges of bytes: at the ends
of encodings of one length, at the surrogates, and where bytes before the last ones change. -/
def cut? (low high : Nat) : Option Nat :=
  let lengths := [0x7F, 0x7FF, 0xD7FF, 0xDFFF, 0xFFFF].find? fun n => low ≤ n && n < high
  match lengths with
  | some n => some n
  | none =>
    if high < 0x80 then none
    else [0x40, 0x1000, 0x40000].findSome? fun m =>
      if low / m = high / m then none
      else if low % m ≠ 0 then some (low / m * m + m - 1)
      else if high % m ≠ m - 1 then some (high / m * m - 1)
      else none

/-- The parts of a range between the places where it is cut, at most `n` of them. -/
def pieces : Nat → Nat → Nat → List (Nat × Nat)
  | 0, _, _ => []
  | n + 1, low, high =>
    match cut? low high with
    | some m => (low, m) :: pieces n (m + 1) high
    | none => [(low, high)]

/-- The sequences of ranges of bytes that encode a set, in order. -/
def sequences (s : CodeSet) : List (List (Nat × Nat)) :=
  (s.ranges.flatMap fun r => (pieces 64 r.1 r.2).filter fun p => p.2 < 0xD800 || 0xDFFF < p.1).map
    fun p => (bytesOf p.1).zip (bytesOf p.2)

/-- How many items two lists start with in common. -/
def shared {α : Type} [DecidableEq α] : List α → List α → Nat
  | a :: as, b :: bs => if a = b then 1 + shared as bs else 0
  | _, _ => 0

/-- The number of states for sequences that share states for what they start with in common. -/
def trieSize {α : Type} [DecidableEq α] : List (List α) → Nat
  | [] => 0
  | [s] => s.length
  | s :: t :: rest => (s.length - shared s t) + trieSize (t :: rest)

/-- The memory for a character of a set. -/
def charsSize (s : CodeSet) : Nat :=
  match s.ranges with
  | [] => stateSize
  | [(a, b)] =>
    if a = b then stateSize * (bytesOf a).length else wide s
  | _ => wide s
where
  /-- The memory for a set of several characters. -/
  wide (s : CodeSet) : Nat :=
    if s.isAscii then 2 * stateSize + 8 * s.ranges.length
    else
      let all := sequences s
      stateSize * (2 + trieSize all) + 4 * all.length

/-! ## Expressions -/

/-- Whether an expression matches at places only, never characters. -/
def Node.isEdge : Node Leaf → Bool
  | empty => true
  | leaf (.chars _) => false
  | leaf (.edge _) => true
  | seq a b | alt a b => a.isEdge && b.isEdge
  | times a _ most => a.isEdge || most = some 0
  | group a => a.isEdge

/-- Whether every match of the expression takes a character. -/
def Node.takesChar : Node Leaf → Bool
  | empty => false
  | leaf (.chars s) => !s.ranges.isEmpty
  | leaf (.edge _) => false
  | seq a b => a.takesChar || b.takesChar
  | alt a b => a.takesChar && b.takesChar
  | times a least _ => 0 < least && a.takesChar
  | group a => a.takesChar

/-- The memory for an expression, where that for a group is given. -/
def Node.size (groupSize : Nat) : Node Leaf → Nat
  | empty => stateSize
  | leaf (.chars s) => charsSize s
  | leaf (.edge _) => stateSize
  | seq a b => a.size groupSize + b.size groupSize
  | alt a b => stateSize + 8 + a.size groupSize + b.size groupSize
  | times a least most =>
    let one := a.size groupSize
    let most := if a.isEdge then some (min 1 (most.getD 1)) else most
    let least := if a.isEdge then min 1 least else least
    let first := if least = 0 then stateSize else least * one
    match most with
    | none =>
      if least = 0 then one + (if a.takesChar then stateSize + 8 else 3 * stateSize + 16)
      else first + stateSize + 8
    | some most =>
      if most = least then first
      else if least = 0 && most = 1 then one + 2 * stateSize + 8
      else first + stateSize + (most - least) * (one + stateSize + 8)
  | group a => groupSize + a.size groupSize

/-- Whether the automaton, forwards with two states for each group and the whole pattern, and
backwards without them, keeps within the limit. -/
def Node.isSmall (a : Node Leaf) : Bool :=
  a.size (2 * stateSize) + 7 * stateSize ≤ sizeLimit && a.size 0 ≤ sizeLimit

end Registrar.Pattern
