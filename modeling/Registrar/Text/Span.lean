/-!
# Spans of code points

A property of characters is a list of spans. A span holds every `step`-th code point from `first`
to `last`, since in many scripts upper-case and lower-case letters alternate.
-/

namespace Registrar.Text

/-- Every `step`-th code point from `first` to `last`. -/
structure Span where
  first : Nat
  last : Nat
  step : Nat
  deriving DecidableEq, Repr

/-- Whether the code point lies on the span. -/
def Span.holds (s : Span) (n : Nat) : Bool :=
  s.first ≤ n && n ≤ s.last && (n - s.first) % s.step == 0

/-- Whether the character lies on one of the spans. -/
def onSpans (spans : List Span) (c : Char) : Bool := spans.any fun s => s.holds c.toNat

end Registrar.Text
