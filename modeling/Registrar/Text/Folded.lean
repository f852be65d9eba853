import Registrar.Text.Case.Folding
import Registrar.Text.CodeSet

/-!
# Sets closed under case

The set of all characters that differ from a member of a set in case only.
-/

namespace Registrar.Text

open Case

/-- The images, as ranges, of those code points of a range that a shift moves. -/
def Case.Shift.images (s : Shift) (r : Nat × Nat) : List (Nat × Nat) :=
  let low := s.first + (r.1 - s.first + s.step - 1) / s.step * s.step
  let high := min r.2 s.last
  if low ≤ high then
    (CodeSet.rangesOf ⟨low, high, s.step⟩).map fun r =>
      ((r.1 + s.offset).toNat, (r.2 + s.offset).toNat)
  else []

/-- The set with every character that differs from a member in case only. -/
def CodeSet.folded (s : CodeSet) : CodeSet :=
  CodeSet.ofRanges (s.ranges ++ s.ranges.flatMap fun r => foldShifts.flatMap (·.images r))

/-- The set with the other case of its letters of ASCII. -/
def CodeSet.foldedAscii (s : CodeSet) : CodeSet :=
  let shifts : List Shift := [⟨⟨0x41, 0x5A, 1⟩, 32⟩, ⟨⟨0x61, 0x7A, 1⟩, -32⟩]
  CodeSet.ofRanges (s.ranges ++ s.ranges.flatMap fun r => shifts.flatMap (·.images r))

end Registrar.Text
