import Registrar.Number.Binary64

/-!
# Shortest decimals

The decimal text of a double has the fewest digits that read back as that double, and among those
the digits nearest to it. `shortest` finds them exactly: it takes the interval of reals that round
to the double and tries the two neighbours of the double on the grids of 1, 2, … 17 digits.

A `Layout` says how a decimal is written out, and the three layouts in use are `Layout.json`,
`Layout.yaml` and `Layout.plain`.
-/

namespace Registrar.Binary64

/-! ## The interval that rounds to a double -/

/-- Reals in quarters of a unit, from `low` to `high`, both included if `closed`. -/
structure Interval where
  low : Nat
  high : Nat
  closed : Bool

/-- The reals that round to the double with this positive magnitude. The gap below a power of two
is half the gap above it, except where doubles reach their least spacing. -/
def interval (units : Nat) : Interval :=
  let gap := 1 <<< (units.log2 - 52)
  let below := if units = 1 <<< units.log2 ∧ 1 < gap then gap else 2 * gap
  ⟨4 * units - below, 4 * units + 2 * gap, units / gap % 2 == 0⟩

/-- Whether `num / den` units lie in the interval. -/
def Interval.holds (i : Interval) (num den : Nat) : Bool :=
  if i.closed then i.low * den ≤ 4 * num && 4 * num ≤ i.high * den
  else i.low * den < 4 * num && 4 * num < i.high * den

/-! ## Grids of decimals -/

/-- The number `digits * 10 ^ exponent`. -/
structure Decimal where
  digits : Nat
  exponent : Int
  deriving DecidableEq, Repr

/-- The power of ten of the leading digit of a positive magnitude. -/
def leadingExponent (units : Nat) : Int :=
  if one ≤ units then digitCount (units / one) - 1
  else -(digitCount ((one - 1) / units) : Int)

/-- One step of the grid of multiples of `10 ^ exponent`, in units, as a quotient. -/
def gridStep (exponent : Int) : Nat × Nat :=
  if 0 ≤ exponent then (Nat.pow 10 exponent.toNat * one, 1)
  else (one, Nat.pow 10 (-exponent).toNat)

/-- Which of two decimals a double exactly between them is written as. -/
inductive Tie
  | even
  | up
  deriving DecidableEq, Repr

/-- Whether a remainder of `rest` out of `whole` takes `below` to the number after it. -/
def Tie.goesUp (tie : Tie) (below rest whole : Nat) : Bool :=
  whole < 2 * rest || (whole == 2 * rest && (tie == .up || below % 2 == 1))

/-- The decimal of `count` digits that is nearest to the double, if one rounds to it. -/
def onGrid? (tie : Tie) (units count : Nat) : Option Decimal :=
  let exponent := leadingExponent units + 1 - count
  let (num, den) := gridStep exponent
  let below := units * den / num
  let rest := units * den % num
  let hit := fun (k : Nat) => (interval units).holds (k * num) den
  match hit below, hit (below + 1) with
  | true, true => some ⟨if tie.goesUp below rest num then below + 1 else below, exponent⟩
  | true, false => some ⟨below, exponent⟩
  | false, true => some ⟨below + 1, exponent⟩
  | false, false => none

/-- The fewest digits that read back as the magnitude; all its digits if 17 were too few. -/
def shortest (tie : Tie) (units : Nat) : Decimal :=
  if units = 0 then ⟨0, 0⟩
  else ((List.range' 1 17).findSome? (onGrid? tie units)).getD ⟨units * Nat.pow 5 1074, -1074⟩

/-! ## Writing a decimal -/

/-- How a decimal is written out. -/
structure Layout where
  /-- What a double exactly between two candidates becomes. -/
  tie : Tie
  /-- The powers of ten of the leading digit that are written without an exponent. -/
  positional : Int → Bool
  /-- Whether an integer keeps one zero after the point. -/
  pointZero : Bool
  /-- Whether an exponent that is not negative has a plus sign. -/
  plus : Bool

/-- JSON text: exponents from `10 ^ 16` and below `10 ^ -5`, with a plus sign. -/
def Layout.json : Layout := ⟨.even, fun e => -5 ≤ e && e < 16, true, true⟩

/-- YAML text: as JSON text, without the plus sign. -/
def Layout.yaml : Layout := { Layout.json with plus := false }

/-- Plain text: never an exponent, and no point in an integer. -/
def Layout.plain : Layout := ⟨.up, fun _ => true, false, false⟩

/-- The digits of a positive number without the zeros they end in. -/
def significant (n : Nat) : List Char := ((Nat.toDigits 10 n).reverse.dropWhile (· = '0')).reverse

/-- Digits with the point after the digit for `10 ^ 0`, the first one standing for `10 ^ e`. -/
def positionalText (pointZero : Bool) (ds : List Char) (e : Int) : List Char :=
  if e < 0 then '0' :: '.' :: List.replicate (-e - 1).toNat '0' ++ ds
  else
    let whole := e.toNat + 1
    if ds.length ≤ whole then
      ds ++ List.replicate (whole - ds.length) '0' ++ (if pointZero then ['.', '0'] else [])
    else ds.take whole ++ '.' :: ds.drop whole

/-- Digits with the point after the first one, and the exponent. -/
def scientificText (plus : Bool) (ds : List Char) (e : Int) : List Char :=
  let mantissa := if ds.length ≤ 1 then ds else ds.take 1 ++ '.' :: ds.drop 1
  let sign := if e < 0 then ['-'] else if plus then ['+'] else []
  mantissa ++ 'e' :: sign ++ Nat.toDigits 10 e.natAbs

/-- The text of a double. -/
def text (layout : Layout) (d : Binary64) : String :=
  let sign := if d.negative then ['-'] else []
  let body :=
    if d.units = 0 then if layout.pointZero then ['0', '.', '0'] else ['0']
    else
      let decimal := shortest layout.tie d.units
      let e := digitCount decimal.digits - 1 + decimal.exponent
      let ds := significant decimal.digits
      if layout.positional e then positionalText layout.pointZero ds e
      else scientificText layout.plus ds e
  String.ofList (sign ++ body)

end Registrar.Binary64
