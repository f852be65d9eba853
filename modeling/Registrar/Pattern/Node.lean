import Registrar.Text.CodeSet
import Registrar.Text.Digit
import Registrar.Text.Property

/-!
# Regular expressions on places

A place of a text lies before, between or after its characters. An expression takes a set of places,
from which matching starts, to the set of places at which it may end (`Node.ends`). Sets of places
are numbers: bit `i` stands for the place before the character with index `i`. Where the text is
known, all that an expression needs to know of a leaf is from which places it leads on (`Move`).
-/

namespace Registrar.Pattern

open Text

/-! ## Expressions -/

/-- Conditions on word characters on either side of a place. -/
inductive WordEdge
  /-- A word character on one side only. -/
  | any
  /-- Word characters on both sides or on neither. -/
  | none
  | start
  | stop
  /-- No word character before the place. -/
  | startHalf
  /-- No word character after the place. -/
  | stopHalf
  deriving DecidableEq, Repr

/-- Conditions on a place. Lines end in a line feed; with `crlf` also in a carriage return or in
both together. -/
inductive Edge
  | textStart
  | textEnd
  | lineStart (crlf : Bool)
  | lineEnd (crlf : Bool)
  | word (edge : WordEdge) (ascii : Bool)
  deriving DecidableEq, Repr

/-- What expressions are made of: a character of a set, or a condition on a place. -/
inductive Leaf
  | chars (set : CodeSet)
  | edge (e : Edge)
  deriving DecidableEq, Repr

/-- A regular expression over leaves. Groups that capture match as what they hold. -/
inductive Node (α : Type)
  | empty
  | leaf (a : α)
  | seq (first second : Node α)
  | alt (first second : Node α)
  | times (body : Node α) (least : Nat) (most : Option Nat)
  | group (body : Node α)
  deriving Repr

/-- The expression with other leaves. -/
def Node.map {α β : Type} (f : α → β) : Node α → Node β
  | empty => empty
  | leaf a => leaf (f a)
  | seq a b => seq (a.map f) (b.map f)
  | alt a b => alt (a.map f) (b.map f)
  | times a least most => times (a.map f) least most
  | group a => group (a.map f)

/-! ## Matching -/

/-- What a leaf does in a text: from which places it leads on, and whether by one character. -/
structure Move where
  places : Nat
  step : Bool

/-- The places that the move leads to. -/
def Move.ends (m : Move) (s : Nat) : Nat :=
  if m.step then (s &&& m.places) <<< 1 else s &&& m.places

/-- Applies a function up to `n` times, and no more once nothing changes. -/
def settle (f : Nat → Nat) : Nat → Nat → Nat
  | 0, s => s
  | n + 1, s => if f s = s then s else settle f n (f s)

/-- The places at which a match may end that starts at one of the places `s`, in a text with `n`
places. More than `n` rounds of a repetition reach no other places than `n` do. -/
def Node.ends (n : Nat) : Node Move → Nat → Nat
  | empty, s => s
  | leaf m, s => m.ends s
  | seq a b, s => b.ends n (a.ends n s)
  | alt a b, s => a.ends n s ||| b.ends n s
  | times a least most, s =>
    let more := match most with
      | some m => min (m - least) n
      | none => n
    settle (fun t => t ||| a.ends n t) more (settle (fun t => a.ends n t) (min least n) s)
  | group a, s => a.ends n s

/-! ## Leaves in a text -/

/-- The number whose bits tell which items pass a test, the first item being the lowest bit. -/
def bits {α : Type} (test : α → Bool) (l : List α) : Nat :=
  l.foldr (fun a n => (if test a then 1 else 0) + 2 * n) 0

/-- The places of a text: the characters before and after each, as far as there are any. -/
def sides (text : List Char) : List (Option Char × Option Char) :=
  (none :: text.map some).zip (text.map some ++ [none])

/-- Whether a word character is there. -/
def isWord (ascii : Bool) : Option Char → Bool
  | some c =>
    if c.toNat < 0x80 then c.isAlphanum || c = '_'
    else !ascii && Property.wordCharacters.holds c.toNat
  | none => false

/-- Whether the condition on words holds between two sides. -/
def WordEdge.holds (e : WordEdge) (before after : Bool) : Bool :=
  match e with
  | any => before != after
  | none => before == after
  | start => !before && after
  | stop => before && !after
  | startHalf => !before
  | stopHalf => !after

/-- Whether the condition holds at a place. -/
def Edge.holds (e : Edge) (before after : Option Char) : Bool :=
  match e with
  | textStart => before.isNone
  | textEnd => after.isNone
  | lineStart false => before.isNone || before = some '\n'
  | lineStart true =>
    before.isNone || before = some '\n' || (before = some '\r' && after ≠ some '\n')
  | lineEnd false => after.isNone || after = some '\n'
  | lineEnd true =>
    after.isNone || after = some '\r' || (after = some '\n' && before ≠ some '\r')
  | word e ascii => e.holds (isWord ascii before) (isWord ascii after)

/-- What a leaf does in a text. -/
def Leaf.move (text : List Char) : Leaf → Move
  | chars set => ⟨bits (fun c => set.holds c.toNat) text, true⟩
  | edge e => ⟨bits (fun s => e.holds s.1 s.2) (sides text), false⟩

/-- Whether the expression matches some part of the text. -/
def Node.occursIn (a : Node Leaf) (text : List Char) : Bool :=
  let n := text.length + 1
  (a.map (Leaf.move text)).ends n (1 <<< n - 1) ≠ 0

end Registrar.Pattern
