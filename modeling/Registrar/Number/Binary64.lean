/-!
# Doubles

A finite double is a sign and a magnitude. The magnitude is counted in units of the least positive
double, `2 ^ -1074`, so it is an exact natural number, and comparing, truncating and rounding are
done on naturals. `Representable` says which counts are magnitudes of doubles: below `2 ^ 2098` and
with at most 53 significant bits. `ofRatio?` rounds a quotient to the nearest double, ties to even.
-/

namespace Registrar

/-- The units in one. -/
def Binary64.one : Nat := 1 <<< 1074

/-- The least number of units that is too great for a double. -/
def Binary64.overflow : Nat := 1 <<< 2098

/-- Below the overflow threshold, and a multiple of the spacing of doubles of that size. -/
def Representable (units : Nat) : Prop :=
  units < Binary64.overflow ∧ units % 1 <<< (units.log2 - 52) = 0

instance (units : Nat) : Decidable (Representable units) := by
  unfold Representable; infer_instance

/-- A finite double: its sign, and its magnitude in units of `2 ^ -1074`. -/
structure Binary64 where
  negative : Bool
  units : Nat
  representable : Representable units
  deriving DecidableEq

namespace Binary64

theorem representable_zero : Representable 0 := by decide +kernel

/-- Zero, which has a sign. -/
def zero (negative : Bool) : Binary64 := ⟨negative, 0, representable_zero⟩

instance : Inhabited Binary64 := ⟨zero false⟩

/-! ## Rounding -/

/-- The natural number nearest to `num / den`; a tie goes to the even one. -/
def roundDiv (num den : Nat) : Nat :=
  let q := num / den
  let r := num % den
  if 2 * r < den then q else if den < 2 * r then q + 1 else q + q % 2

/-- The count of units with at most 53 significant bits that is nearest to `num / den`. -/
def roundUnits (num den : Nat) : Nat :=
  let drop := (num / den).log2 - 52
  roundDiv num (den <<< drop) <<< drop

theorem roundDiv_le (num den : Nat) : roundDiv num den ≤ num / den + 1 := by
  unfold roundDiv
  simp only
  split
  · omega
  · split <;> omega

/-- A number of at most 53 bits with zeros after it fills the spacing. -/
theorem shiftLeft_mod (m s : Nat) (h : m ≤ 1 <<< 53) :
    m <<< s % 1 <<< ((m <<< s).log2 - 52) = 0 := by
  simp only [Nat.shiftLeft_eq, Nat.one_mul] at *
  apply Nat.mod_eq_zero_of_dvd
  by_cases h0 : m = 0
  · subst h0; simp
  have hpos : m * 2 ^ s ≠ 0 := Nat.mul_ne_zero h0 (Nat.ne_of_gt (Nat.two_pow_pos s))
  by_cases hm : m = 2 ^ 53
  · subst hm
    rw [← Nat.pow_add, Nat.log2_two_pow]
    exact Nat.pow_dvd_pow 2 (by omega)
  · have hlt : (m * 2 ^ s).log2 < 53 + s := by
      rw [Nat.log2_lt hpos, Nat.pow_add]
      exact Nat.mul_lt_mul_of_pos_right (by omega) (Nat.two_pow_pos s)
    exact Nat.dvd_trans (Nat.pow_dvd_pow 2 (by omega)) (Nat.dvd_mul_left _ _)

theorem roundDiv_mantissa_le (num den : Nat) :
    roundDiv num (den <<< ((num / den).log2 - 52)) ≤ 1 <<< 53 := by
  refine Nat.le_trans (roundDiv_le _ _) ?_
  simp only [Nat.shiftLeft_eq, Nat.one_mul]
  rw [← Nat.div_div_eq_div_mul]
  have h : num / den < 2 ^ ((num / den).log2 + 1) := Nat.lt_log2_self
  have hle : 2 ^ ((num / den).log2 + 1) ≤ 2 ^ 53 * 2 ^ ((num / den).log2 - 52) := by
    rw [← Nat.pow_add]
    exact Nat.pow_le_pow_right (by decide) (by omega)
  exact (Nat.div_lt_iff_lt_mul (Nat.two_pow_pos _)).2 (Nat.lt_of_lt_of_le h hle)

/-- Rounding gives a double unless it overflows. -/
theorem representable_roundUnits {num den : Nat} (h : roundUnits num den < overflow) :
    Representable (roundUnits num den) :=
  ⟨h, shiftLeft_mod _ _ (roundDiv_mantissa_le num den)⟩

/-- The double nearest to `± num / den`, if that is finite. -/
def ofRatio? (negative : Bool) (num den : Nat) : Option Binary64 :=
  if h : roundUnits (num * one) den < overflow then
    some ⟨negative, roundUnits (num * one) den, representable_roundUnits h⟩
  else none

theorem roundUnits_le (num den : Nat) :
    roundUnits num den ≤ 1 <<< (53 + ((num / den).log2 - 52)) := by
  simp only [roundUnits, Nat.shiftLeft_eq, Nat.one_mul, Nat.pow_add]
  have h := roundDiv_mantissa_le num den
  simp only [Nat.shiftLeft_eq, Nat.one_mul] at h
  exact Nat.mul_le_mul_right _ h

theorem log2_shiftLeft_le {n k : Nat} (m : Nat) (h : n < 1 <<< (k + 1)) :
    (n <<< m).log2 ≤ k + m := by
  simp only [Nat.shiftLeft_eq, Nat.one_mul] at *
  by_cases h0 : n * 2 ^ m = 0
  · simp [h0]
  · have : (n * 2 ^ m).log2 < k + 1 + m := by
      rw [Nat.log2_lt h0, Nat.pow_add]
      exact Nat.mul_lt_mul_of_pos_right h (Nat.two_pow_pos _)
    omega

theorem mul_one_shiftLeft (n m : Nat) : n * 1 <<< m = n <<< m := by
  rw [Nat.shiftLeft_eq, Nat.shiftLeft_eq, Nat.one_mul]

theorem one_shiftLeft_lt {l m : Nat} (h : l < m) : 1 <<< l < 1 <<< m := by
  rw [Nat.one_shiftLeft, Nat.one_shiftLeft]
  exact Nat.pow_lt_pow_of_lt (by decide) h

/-- An integer of up to 65 bits is far below the overflow threshold. -/
theorem roundUnits_int_lt {n : Nat} (h : n < 1 <<< 65) : roundUnits (n * one) 1 < overflow := by
  have hlog := log2_shiftLeft_le 1074 h
  refine Nat.lt_of_le_of_lt (roundUnits_le _ _) ?_
  rw [Nat.div_one, one, mul_one_shiftLeft, overflow]
  exact one_shiftLeft_lt (by omega)

/-- The double nearest to an integer of up to 65 bits. -/
def ofInt (i : Int) (h : i.natAbs < 1 <<< 65) : Binary64 :=
  ⟨i < 0, roundUnits (i.natAbs * one) 1, representable_roundUnits (roundUnits_int_lt h)⟩

/-- The number of decimal digits of a natural number. -/
def digitCount (n : Nat) : Nat := (Nat.toDigits 10 n).length

/-- The double nearest to `± digits * 10 ^ exponent`, if that is finite. -/
def ofDecimal? (negative : Bool) (digits : Nat) (exponent : Int) : Option Binary64 :=
  let magnitude := digitCount digits + exponent
  if digits = 0 ∨ magnitude < -330 then some (zero negative)
  else if 310 < magnitude then none
  else if 0 ≤ exponent then ofRatio? negative (digits * Nat.pow 10 exponent.toNat) 1
  else ofRatio? negative digits (Nat.pow 10 (-exponent).toNat)

/-! ## Order and parts -/

/-- The number in units, with its sign. The two zeros have the same. -/
def signed (d : Binary64) : Int := if d.negative then -(d.units : Int) else d.units

/-- Numeric order. -/
def lt (a b : Binary64) : Bool := a.signed < b.signed

/-- Whether the number has no fractional part. -/
def isIntegral (d : Binary64) : Bool := d.units % one == 0

/-- The magnitude without its fractional part. -/
def floorAbs (d : Binary64) : Nat := d.units / one

/-- The bits of the interchange format: sign, biased exponent, fraction. -/
def toBits (d : Binary64) : Nat :=
  let sign := if d.negative then 1 <<< 63 else 0
  let drop := d.units.log2 - 52
  if d.units < 1 <<< 52 then sign + d.units
  else sign + (drop + 1) <<< 52 + (d.units >>> drop - 1 <<< 52)

end Binary64

end Registrar
