import Registrar.Text.Span

/-!
# Sets of code points

A set of code points is kept as closed ranges in increasing order, no two of which touch, so that
equal sets are equal lists. `CodeSet.ofRanges` brings any list of ranges into this form; the
operations of sets are made of it and of the complement up to a limit.
-/

namespace Registrar.Text

/-- A set of code points, as closed ranges. -/
structure CodeSet where
  ranges : List (Nat × Nat)
  deriving DecidableEq, Repr

namespace CodeSet

/-- The last code point. -/
def limit : Nat := 0x10FFFF

/-- Joins ranges, in the order of their first elements, where they overlap or touch. The range
`low` to `high` comes before them. -/
def coalesce (low high : Nat) : List (Nat × Nat) → List (Nat × Nat)
  | [] => [(low, high)]
  | (a, b) :: rest =>
    if a ≤ high + 1 then coalesce low (max high b) rest else (low, high) :: coalesce a b rest

/-- The union of ranges. A range whose end lies before its start holds nothing. -/
def ofRanges (ranges : List (Nat × Nat)) : CodeSet :=
  match (ranges.filter fun r => r.1 ≤ r.2).mergeSort fun r s => r.1 ≤ s.1 with
  | [] => ⟨[]⟩
  | (a, b) :: rest => ⟨coalesce a b rest⟩

/-- The empty set. -/
def empty : CodeSet := ⟨[]⟩

/-- Every code point. -/
def all : CodeSet := ⟨[(0, limit)]⟩

/-- One code point. -/
def single (n : Nat) : CodeSet := ⟨[(n, n)]⟩

/-- The ranges of a span: one, unless the span leaves out code points. -/
def rangesOf (s : Span) : List (Nat × Nat) :=
  if s.step = 1 then [(s.first, s.last)]
  else (List.range ((s.last - s.first) / s.step + 1)).map fun i =>
    (s.first + i * s.step, s.first + i * s.step)

/-- The code points on spans. -/
def ofSpans (spans : List Span) : CodeSet := ofRanges (spans.flatMap rangesOf)

/-- Whether the set holds the code point. -/
def holds (s : CodeSet) (n : Nat) : Bool := s.ranges.any fun r => r.1 ≤ n && n ≤ r.2

/-- Whether the set holds code points of ASCII only. -/
def isAscii (s : CodeSet) : Bool := s.ranges.all fun r => r.2 < 0x80

/-- The union of two sets. -/
def union (s t : CodeSet) : CodeSet := ofRanges (s.ranges ++ t.ranges)

/-- The ranges between the given ones, from `low` to `high`. -/
def gaps (low high : Nat) : List (Nat × Nat) → List (Nat × Nat)
  | [] => [(low, high)]
  | (a, b) :: rest => (if low < a then [(low, a - 1)] else []) ++ gaps (b + 1) high rest

/-- What the set leaves out, up to a last code point. -/
def compl (s : CodeSet) (last : Nat := limit) : CodeSet := ofRanges (gaps 0 last s.ranges)

/-- What two sets have in common. -/
def inter (s t : CodeSet) : CodeSet := (s.compl.union t.compl).compl

/-- What the first set holds and the second does not. -/
def diff (s t : CodeSet) : CodeSet := s.inter t.compl

/-- What just one of two sets holds. -/
def symmDiff (s t : CodeSet) : CodeSet := (s.diff t).union (t.diff s)

end CodeSet

end Registrar.Text
