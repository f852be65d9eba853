import Registrar.Number.Shortest
import Mathlib.Tactic.Ring

/-!
# Decimals that round to a double

The interval of a double (`Binary64.interval`) is what its name says: every quotient in it rounds to
the double (`roundUnits_of_holds`). The shortest decimal of a double is searched for in that
interval, so reading it gives the double again (`ofDecimal?_shortest`). What is read depends on the
number alone, not on how it is split into digits and an exponent (`ofDecimal?_mul_pow`).
-/

namespace Registrar.Binary64

/-! ## Rounding to the nearest number -/

/-- A number `m` with `num / den` within one half of it is the nearest, where a tie needs an even
one. -/
theorem roundDiv_eq {num den m : Nat} (hd : 0 < den) (hlow : 2 * (m * den) ≤ 2 * num + den)
    (hhigh : 2 * num ≤ 2 * (m * den) + den)
    (htie : 2 * (m * den) = 2 * num + den ∨ 2 * num = 2 * (m * den) + den → m % 2 = 0) :
    roundDiv num den = m := by
  have hdiv := Nat.div_add_mod num den
  have hmod := Nat.mod_lt num hd
  rw [Nat.mul_comm] at hdiv
  unfold roundDiv
  simp only
  by_cases hle : m * den ≤ num
  · -- the quotient is `m` itself
    have hq : num / den = m := by
      refine Nat.div_eq_of_lt_le hle ?_
      rw [Nat.add_mul]
      omega
    rw [hq] at hdiv ⊢
    split
    · rfl
    · split
      · omega
      · have := htie (.inr (by omega))
        omega
  · -- the quotient is the number before `m`
    obtain ⟨k, rfl⟩ : ∃ k, m = k + 1 := Nat.exists_eq_succ_of_ne_zero fun h => hle (by simp [h])
    rw [Nat.add_mul, Nat.one_mul] at hle hlow hhigh htie
    have hq : num / den = k := by
      refine Nat.div_eq_of_lt_le (by omega) ?_
      rw [Nat.add_mul]
      omega
    rw [hq] at hdiv ⊢
    split
    · omega
    · split
      · rfl
      · have := htie (.inl (by omega))
        omega

theorem roundDiv_mul_right {c : Nat} (hc : 0 < c) (num den : Nat) :
    roundDiv (num * c) (den * c) = roundDiv num den := by
  unfold roundDiv
  simp only [Nat.mul_div_mul_right _ _ hc, Nat.mul_mod_mul_right, ← Nat.mul_assoc 2,
    Nat.mul_lt_mul_right hc]

theorem roundUnits_mul_right {c : Nat} (hc : 0 < c) (num den : Nat) :
    roundUnits (num * c) (den * c) = roundUnits num den := by
  unfold roundUnits
  simp only [Nat.mul_div_mul_right _ _ hc, Nat.shiftLeft_eq]
  rw [Nat.mul_right_comm, roundDiv_mul_right hc]

/-- The count of units with the given spacing that is nearest to a quotient of that size. -/
theorem roundUnits_eq {num den m drop : Nat} (hd : 0 < den)
    (hdrop : (num / den).log2 - 52 = drop)
    (hlow : 2 * (m * (den * 2 ^ drop)) ≤ 2 * num + den * 2 ^ drop)
    (hhigh : 2 * num ≤ 2 * (m * (den * 2 ^ drop)) + den * 2 ^ drop)
    (htie : 2 * (m * (den * 2 ^ drop)) = 2 * num + den * 2 ^ drop ∨
      2 * num = 2 * (m * (den * 2 ^ drop)) + den * 2 ^ drop → m % 2 = 0) :
    roundUnits num den = m * 2 ^ drop := by
  unfold roundUnits
  simp only [hdrop, Nat.shiftLeft_eq]
  rw [roundDiv_eq (Nat.mul_pos hd (Nat.two_pow_pos drop)) hlow hhigh htie]

/-! ## The interval of a double -/

theorem log2_sub_eq {q s : Nat} (hlow : s = 0 ∨ 2 ^ 52 * 2 ^ s ≤ q) (hhigh : q < 2 ^ 53 * 2 ^ s) :
    q.log2 - 52 = s := by
  by_cases hq : q = 0
  · subst hq
    rcases hlow with rfl | hlow
    · simp
    · exact absurd hlow (Nat.not_le.2 (Nat.mul_pos (by decide) (Nat.two_pow_pos s)))
  · rw [← Nat.pow_add, ← Nat.log2_lt hq] at hhigh
    rcases hlow with rfl | hlow
    · omega
    · rw [← Nat.pow_add, ← Nat.le_log2 hq] at hlow
      omega

/-- The spacing of doubles around a magnitude. -/
def gap (units : Nat) : Nat := 2 ^ (units.log2 - 52)

theorem gap_pos (units : Nat) : 0 < gap units := Nat.two_pow_pos _

theorem interval_eq (units : Nat) : interval units =
    ⟨4 * units - (if units = 2 ^ units.log2 ∧ 1 < gap units then gap units else 2 * gap units),
      4 * units + 2 * gap units, units / gap units % 2 == 0⟩ := by
  simp only [interval, Nat.one_shiftLeft]
  rfl

/-- A magnitude is a multiple of the spacing, by a number of at most 53 bits; of exactly 53, unless
the spacing is the least. -/
theorem exists_significand {units : Nat} (h : Representable units) (h0 : units ≠ 0) :
    ∃ m, units = m * gap units ∧ 0 < m ∧ m < 2 ^ 53 ∧ (units.log2 - 52 = 0 ∨ 2 ^ 52 ≤ m) := by
  obtain ⟨m, hm⟩ : gap units ∣ units := by
    rw [gap, ← Nat.one_shiftLeft]
    exact Nat.dvd_of_mod_eq_zero h.2
  rw [Nat.mul_comm] at hm
  refine ⟨m, hm, Nat.pos_of_ne_zero fun hz => h0 (by rw [hm, hz, Nat.zero_mul]), ?_, ?_⟩
  · have hlt : units < 2 ^ 53 * gap units := by
      rw [gap, ← Nat.pow_add, ← Nat.log2_lt h0]
      omega
    exact Nat.lt_of_mul_lt_mul_right (Nat.lt_of_le_of_lt (Nat.le_of_eq hm.symm) hlt)
  · by_cases hs : units.log2 - 52 = 0
    · exact .inl hs
    · refine .inr ?_
      have hle : 2 ^ 52 * gap units ≤ units := by
        rw [gap, ← Nat.pow_add, ← Nat.le_log2 h0]
        omega
      exact Nat.le_of_mul_le_mul_right (Nat.le_trans hle (Nat.le_of_eq hm)) (gap_pos units)

/-- What it is to lie in the interval of a magnitude, with the end points left out where the
significand is odd. -/
theorem holds_iff {units num den m : Nat} (hm : units = m * gap units) :
    (interval units).holds num den = true ↔
      (interval units).low * den ≤ 4 * num ∧ 4 * num ≤ (interval units).high * den ∧
      (m % 2 = 0 ∨
        (interval units).low * den < 4 * num ∧ 4 * num < (interval units).high * den) := by
  have hdiv : units / gap units = m := Nat.div_eq_of_eq_mul_left (gap_pos units) hm
  have hc : (interval units).closed = decide (m % 2 = 0) := by
    rw [interval_eq, hdiv]
    rfl
  unfold Interval.holds
  by_cases he : m % 2 = 0
  · simp [hc, he]
  · simp only [hc, he, decide_false, Bool.false_eq_true, if_false, Bool.and_eq_true,
      decide_eq_true_eq, false_or]
    omega

/-- Where the interval is as wide below as above, or the quotient is above, the quotient is rounded
to a multiple of the spacing. -/
theorem roundUnits_of_same_size {units num den m : Nat} (hm : units = m * gap units)
    (hlt : m < 2 ^ 53) (hd : 0 < den)
    (hsize : units.log2 - 52 = 0 ∨ 2 ^ 52 * (den * gap units) ≤ num)
    (hlow : 2 * (m * (den * gap units)) ≤ 2 * num + den * gap units)
    (hhigh : 2 * num ≤ 2 * (m * (den * gap units)) + den * gap units)
    (htie : 2 * (m * (den * gap units)) = 2 * num + den * gap units ∨
      2 * num = 2 * (m * (den * gap units)) + den * gap units → m % 2 = 0) :
    roundUnits num den = units := by
  have hdrop : (num / den).log2 - 52 = units.log2 - 52 := by
    refine log2_sub_eq (hsize.imp_right fun h => ?_) ?_
    · rw [Nat.le_div_iff_mul_le hd]
      calc 2 ^ 52 * gap units * den = 2 ^ 52 * (den * gap units) := by ring
        _ ≤ num := h
    · rw [Nat.div_lt_iff_lt_mul hd]
      have hD : 0 < den * gap units := Nat.mul_pos hd (Nat.two_pow_pos _)
      have hmax := Nat.mul_le_mul_right (den * gap units) (Nat.le_sub_one_of_lt hlt)
      calc num < 2 ^ 53 * (den * gap units) := by omega
        _ = 2 ^ 53 * gap units * den := by ring
  conv_rhs => rw [hm]
  exact roundUnits_eq hd hdrop hlow hhigh htie

/-- Just below a power of two the spacing is half as wide. -/
theorem roundUnits_below_power {s num den : Nat} (hd : 0 < den)
    (hlow : 4 * (2 ^ 52 * (den * 2 ^ (s + 1))) ≤ 4 * num + den * 2 ^ (s + 1))
    (hhigh : num < 2 ^ 52 * (den * 2 ^ (s + 1))) :
    roundUnits num den = 2 ^ 52 * 2 ^ (s + 1) := by
  have hD : den * 2 ^ (s + 1) = 2 * (den * 2 ^ s) := by ring
  rw [hD] at hlow hhigh
  have hpos : 0 < den * 2 ^ s := Nat.mul_pos hd (Nat.two_pow_pos s)
  have hdrop : (num / den).log2 - 52 = s := by
    refine log2_sub_eq (.inr ?_) ?_
    · rw [Nat.le_div_iff_mul_le hd]
      calc 2 ^ 52 * 2 ^ s * den = 2 ^ 52 * (den * 2 ^ s) := by ring
        _ ≤ num := by omega
    · rw [Nat.div_lt_iff_lt_mul hd]
      calc num < 2 ^ 53 * (den * 2 ^ s) := by omega
        _ = 2 ^ 53 * 2 ^ s * den := by ring
  calc roundUnits num den = 2 ^ 53 * 2 ^ s :=
        roundUnits_eq hd hdrop (by omega) (by omega) fun _ => by decide
    _ = 2 ^ 52 * 2 ^ (s + 1) := by ring

/-- The end points of the interval around `m` spacings. -/
theorem interval_bounds {units m : Nat} (hm : units = m * gap units) (hpos : 0 < m)
    (den : Nat) :
    (interval units).high * den = 4 * (m * (den * gap units)) + 2 * (den * gap units) ∧
    (interval units).low * den +
        (if units = 2 ^ units.log2 ∧ 1 < gap units then 1 else 2) * (den * gap units) =
      4 * (m * (den * gap units)) := by
  have hunits : units * den = m * (den * gap units) := by
    conv_lhs => rw [hm]
    ring
  have hle : gap units ≤ units := by
    conv_rhs => rw [hm]
    exact Nat.le_mul_of_pos_left _ hpos
  rw [interval_eq, ← hunits]
  refine ⟨by ring, ?_⟩
  simp only
  rw [Nat.sub_mul]
  have hle' := Nat.mul_le_mul_right den hle
  have hc := Nat.mul_comm den (gap units)
  split
  · rw [Nat.mul_assoc]
    omega
  · rw [Nat.mul_assoc, Nat.mul_assoc]
    omega

/-- Every quotient in the interval of a double rounds to the double. -/
theorem roundUnits_of_holds {units num den : Nat} (h : Representable units) (h0 : units ≠ 0)
    (hd : 0 < den) (hi : (interval units).holds num den = true) : roundUnits num den = units := by
  obtain ⟨m, hm, hpos, hlt, hnorm⟩ := exists_significand h h0
  obtain ⟨hlow, hhigh, hopen⟩ := (holds_iff hm).1 hi
  obtain ⟨hhigh', hlow'⟩ := interval_bounds hm hpos den
  by_cases hb : units = 2 ^ units.log2 ∧ 1 < gap units
  · rw [if_pos hb] at hlow'
    obtain ⟨hpow, hgap⟩ := hb
    obtain ⟨s, hs⟩ : ∃ s, units.log2 - 52 = s + 1 := by
      refine Nat.exists_eq_succ_of_ne_zero fun hz => ?_
      rw [gap, hz] at hgap
      omega
    have hm52 : m = 2 ^ 52 := by
      have hmul : m * gap units = 2 ^ 52 * gap units := by
        rw [← hm, gap, ← Nat.pow_add]
        conv_lhs => rw [hpow]
        congr 1
        omega
      exact Nat.eq_of_mul_eq_mul_right (gap_pos units) hmul
    by_cases hbelow : num < m * (den * gap units)
    · conv_rhs => rw [hm, hm52, gap, hs]
      rw [hm52, gap, hs] at hbelow hlow'
      exact roundUnits_below_power hd (by omega) hbelow
    · refine roundUnits_of_same_size hm hlt hd (.inr ?_) (by omega) (by omega) (by omega)
      rw [← hm52]
      omega
  · rw [if_neg hb] at hlow'
    refine roundUnits_of_same_size hm hlt hd ?_ (by omega) (by omega) (by omega)
    by_cases hs : units.log2 - 52 = 0
    · exact .inl hs
    · -- the significand is not the least of 53 bits, so there is room below
      have hm52 : 2 ^ 52 ≠ m := fun he => by
        refine hb ⟨?_, Nat.one_lt_two_pow hs⟩
        conv_lhs => rw [hm, ← he, gap, ← Nat.pow_add]
        congr 1
        omega
      have hmin := Nat.mul_le_mul_right (den * gap units)
        (Nat.lt_of_le_of_ne (hnorm.resolve_left hs) hm52)
      rw [Nat.succ_mul] at hmin
      exact .inr (by omega)

/-! ## Decimals in the interval -/

/-- The decimal lies in the interval of the magnitude. -/
def Decimal.Near (d : Decimal) (units : Nat) : Prop :=
  (interval units).holds (d.digits * (gridStep d.exponent).1) (gridStep d.exponent).2 = true

theorem near_of_onGrid? {tie : Tie} {units count : Nat} {d : Decimal}
    (h : onGrid? tie units count = some d) : d.Near units := by
  unfold onGrid? at h
  simp only at h
  split at h
  · rename_i hlow hhigh
    cases h
    unfold Decimal.Near
    simp only
    split
    · exact hhigh
    · exact hlow
  · rename_i hlow _
    cases h
    exact hlow
  · rename_i _ hhigh
    cases h
    exact hhigh
  · cases h

theorem gridStep_pos (e : Int) : 0 < (gridStep e).2 := by
  unfold gridStep
  split
  · exact Nat.one_pos
  · exact Nat.pow_pos (by decide)

theorem gridStep_neg {k : Nat} (hk : 0 < k) : gridStep (-k) = (one, 10 ^ k) := by
  rw [gridStep, if_neg (by omega), Int.neg_neg, Int.toNat_natCast]
  rfl

theorem gridStep_natCast (k : Nat) : gridStep k = (10 ^ k * one, 1) := by
  rw [gridStep, if_pos (by omega), Int.toNat_natCast]
  rfl

theorem holds_of_exact {units num den : Nat} (h : Representable units) (h0 : units ≠ 0)
    (hd : 0 < den) (hnum : num = units * den) : (interval units).holds num den = true := by
  obtain ⟨m, hm, hpos, -, -⟩ := exists_significand h h0
  obtain ⟨hhigh, hlow⟩ := interval_bounds hm hpos den
  have hgap : 0 < den * gap units := Nat.mul_pos hd (gap_pos units)
  have hunits : num = m * (den * gap units) := by
    rw [hnum]
    conv_lhs => rw [hm]
    ring
  rw [holds_iff hm, hunits]
  split at hlow <;> omega

theorem pow_five_mul (k : Nat) : Nat.pow 5 k * 2 ^ k = 10 ^ k := (Nat.mul_pow 5 2 k).symm

/-- The magnitude itself, with all its digits. -/
theorem near_exact {units k : Nat} (h : Representable units) (h0 : units ≠ 0) (hk : 0 < k)
    (hone : one = 1 <<< k) {e : Int} (he : e = -k) :
    Decimal.Near ⟨units * Nat.pow 5 k, e⟩ units := by
  refine holds_of_exact h h0 (gridStep_pos _) ?_
  simp only [he, gridStep_neg hk]
  rw [hone, Nat.one_shiftLeft, Nat.mul_assoc, pow_five_mul]

theorem near_shortest (tie : Tie) {units : Nat} (h : Representable units) (h0 : units ≠ 0) :
    (shortest tie units).Near units := by
  rw [shortest, if_neg h0]
  cases hf : (List.range' 1 17).findSome? (onGrid? tie units) with
  | none =>
    rw [Option.getD_none]
    -- with the exponent in sight, its power would be evaluated
    generalize hk : 1074 = k
    exact near_exact h h0 (by omega) (hk ▸ one.eq_1) (by omega)
  | some d =>
    obtain ⟨count, -, hc⟩ := List.exists_of_findSome?_eq_some hf
    exact near_of_onGrid? hc

theorem two_le_low {units : Nat} (h : Representable units) (h0 : units ≠ 0) :
    2 ≤ (interval units).low := by
  obtain ⟨m, hm, hpos, -, -⟩ := exists_significand h h0
  obtain ⟨-, hlow⟩ := interval_bounds hm hpos 1
  have hgap := gap_pos units
  have hle : gap units ≤ m * gap units := Nat.le_mul_of_pos_left _ hpos
  rw [Nat.mul_one, Nat.one_mul] at hlow
  split at hlow <;> omega

theorem high_le {units : Nat} (h : Representable units) (h0 : units ≠ 0) :
    (interval units).high ≤ 6 * units := by
  obtain ⟨m, hm, hpos, -, -⟩ := exists_significand h h0
  obtain ⟨hhigh, -⟩ := interval_bounds hm hpos 1
  have hle : gap units ≤ m * gap units := Nat.le_mul_of_pos_left _ hpos
  rw [Nat.mul_one, Nat.one_mul] at hhigh
  omega

/-! ## Reading decimals -/

theorem lt_pow_digitCount (n : Nat) : n < 10 ^ digitCount n :=
  (Nat.length_toDigits_le_iff (by decide) Nat.length_toDigits_pos).1 Nat.le.refl

theorem pow_digitCount_le {n : Nat} (h : n ≠ 0) : 10 ^ (digitCount n - 1) ≤ n := by
  by_cases hc : digitCount n = 1
  · rw [hc]
    exact Nat.pos_of_ne_zero h
  · have hpos : 0 < digitCount n := Nat.length_toDigits_pos
    have hk := (Nat.length_toDigits_le_iff (n := n) (b := 10) (by decide)
      (k := digitCount n - 1) (by omega)).not.1 (by unfold digitCount at *; omega)
    exact Nat.not_lt.1 hk

/-- An exponent is a natural number or the negative of a positive one. -/
theorem exponent_cases (e : Int) : (∃ k : Nat, e = k) ∨ ∃ k : Nat, 0 < k ∧ e = -k := by
  by_cases h : 0 ≤ e
  · exact .inl ⟨e.toNat, by omega⟩
  · exact .inr ⟨(-e).toNat, by omega, by omega⟩

namespace Decimal.Near

variable {d : Decimal} {units : Nat}

theorem digits_ne_zero (hn : d.Near units) (h : Representable units) (h0 : units ≠ 0) :
    d.digits ≠ 0 := by
  obtain ⟨m, hm, -, -, -⟩ := exists_significand h h0
  obtain ⟨hlow, -⟩ := (holds_iff hm).1 hn
  have hlow2 := Nat.mul_le_mul_right (gridStep d.exponent).2 (two_le_low h h0)
  have hpos := gridStep_pos d.exponent
  intro hz
  simp only [hz, Nat.zero_mul, Nat.mul_zero] at hlow
  omega

/-- A decimal of less magnitude is below half a unit. -/
theorem neg_le_magnitude (hn : d.Near units) (h : Representable units) (h0 : units ≠ 0) {n : Nat}
    (hsmall : 4 * one < 2 * 10 ^ n) : -(n : Int) ≤ digitCount d.digits + d.exponent := by
  obtain ⟨m, hm, -, -, -⟩ := exists_significand h h0
  obtain ⟨hlow, -⟩ := (holds_iff hm).1 hn
  have hlow2 := Nat.mul_le_mul_right (gridStep d.exponent).2 (two_le_low h h0)
  have hdigits := Nat.pos_of_ne_zero (hn.digits_ne_zero h h0)
  by_contra hmag
  obtain ⟨k, hk, he⟩ := (exponent_cases d.exponent).resolve_left fun ⟨k, hk⟩ => hmag (by omega)
  rw [he, gridStep_neg hk] at hlow hlow2
  simp only at hlow hlow2
  have hten : d.digits * 10 ^ n ≤ 10 ^ k := by
    calc d.digits * 10 ^ n ≤ 10 ^ digitCount d.digits * 10 ^ n :=
          Nat.mul_le_mul_right _ (lt_pow_digitCount _).le
      _ = 10 ^ (digitCount d.digits + n) := (Nat.pow_add _ _ _).symm
      _ ≤ 10 ^ k := Nat.pow_le_pow_right (by decide) (by omega)
  have hlt := Nat.mul_lt_mul_of_pos_left hsmall hdigits
  have h1 : d.digits * (4 * one) = 4 * (d.digits * one) := by ring
  have h2 : d.digits * (2 * 10 ^ n) = 2 * (d.digits * 10 ^ n) := by ring
  omega

/-- A decimal of greater magnitude overflows. -/
theorem magnitude_le (hn : d.Near units) (h : Representable units) (h0 : units ≠ 0) {n : Nat}
    (hgreat : 6 * overflow < 4 * (10 ^ n * one)) : digitCount d.digits + d.exponent ≤ n := by
  obtain ⟨m, hm, -, -, -⟩ := exists_significand h h0
  obtain ⟨-, hhigh, -⟩ := (holds_iff hm).1 hn
  have hhigh6 := Nat.mul_le_mul_right (gridStep d.exponent).2 (high_le h h0)
  have hdigits := pow_digitCount_le (hn.digits_ne_zero h h0)
  have hlt : units < overflow := h.1
  by_contra hmag
  rcases exponent_cases d.exponent with ⟨k, he⟩ | ⟨k, hk, he⟩
  · rw [he, gridStep_natCast] at hhigh hhigh6
    simp only [Nat.mul_one] at hhigh hhigh6
    have hten : 10 ^ n * one ≤ d.digits * (10 ^ k * one) := by
      rw [← Nat.mul_assoc]
      refine Nat.mul_le_mul_right _ ?_
      calc 10 ^ n ≤ 10 ^ (digitCount d.digits - 1 + k) :=
            Nat.pow_le_pow_right (by decide) (by omega)
        _ = 10 ^ (digitCount d.digits - 1) * 10 ^ k := Nat.pow_add _ _ _
        _ ≤ d.digits * 10 ^ k := Nat.mul_le_mul_right _ hdigits
    omega
  · rw [he, gridStep_neg hk] at hhigh hhigh6
    simp only at hhigh hhigh6
    have hten : 10 ^ n * 10 ^ k ≤ d.digits := by
      calc 10 ^ n * 10 ^ k = 10 ^ (n + k) := (Nat.pow_add _ _ _).symm
        _ ≤ 10 ^ (digitCount d.digits - 1) := Nat.pow_le_pow_right (by decide) (by omega)
        _ ≤ d.digits := hdigits
    have hone := Nat.mul_le_mul_right one hten
    have hover := Nat.mul_lt_mul_of_pos_right hgreat (Nat.pow_pos (by decide) : 0 < 10 ^ k)
    have hunits := Nat.mul_le_mul_right (10 ^ k) (Nat.mul_le_mul_left 6 hlt.le)
    have h1 : 10 ^ n * 10 ^ k * one * 4 = 4 * (10 ^ n * one) * 10 ^ k := by ring
    omega

end Decimal.Near

theorem ofDecimal?_of_round {digits : Nat} {e : Int} {d : Binary64} (h0 : digits ≠ 0)
    (hlow : -330 ≤ digitCount digits + e) (hhigh : digitCount digits + e ≤ 310)
    (h : roundUnits (digits * (gridStep e).1) (gridStep e).2 = d.units) :
    ofDecimal? d.negative digits e = some d := by
  have hratio {num den : Nat} (hr : roundUnits (num * one) den = d.units) :
      ofRatio? d.negative num den = some d := by
    unfold ofRatio?
    simp only [hr, d.representable.1, dif_pos]
  unfold ofDecimal?
  simp only
  rw [if_neg (by omega), if_neg (by omega)]
  unfold gridStep at h
  split at h
  · rename_i he
    rw [if_pos he]
    exact hratio (by rw [Nat.mul_assoc]; exact h)
  · rename_i he
    rw [if_neg he]
    exact hratio h

theorem ofRatio?_mul_right {c : Nat} (hc : 0 < c) (negative : Bool) (num den : Nat) :
    ofRatio? negative (num * c) (den * c) = ofRatio? negative num den := by
  unfold ofRatio?
  simp only [Nat.mul_right_comm num c, roundUnits_mul_right hc]

theorem digitCount_mul_pow {n : Nat} (h : n ≠ 0) (k : Nat) :
    digitCount (n * 10 ^ k) = digitCount n + k := by
  induction k with
  | zero => rw [Nat.pow_zero, Nat.mul_one, Nat.add_zero]
  | succ k ih =>
    have hpos : 0 < n * 10 ^ k := Nat.mul_pos (Nat.pos_of_ne_zero h) (Nat.pow_pos (by decide))
    rw [Nat.pow_succ, ← Nat.mul_assoc, ← Nat.add_assoc, ← ih]
    unfold digitCount
    rw [Nat.toDigits_of_base_le (by decide) (by omega), List.length_append,
      Nat.mul_div_cancel _ (by decide)]
    rfl

/-- A decimal as a quotient. -/
theorem ofDecimal?_eq {digits : Nat} (h0 : digits ≠ 0) (negative : Bool) (e : Int) :
    ofDecimal? negative digits e =
      if digitCount digits + e < -330 then some (zero negative)
      else if 310 < digitCount digits + e then none
      else ofRatio? negative (digits * 10 ^ e.toNat) (10 ^ (-e).toNat) := by
  unfold ofDecimal?
  simp only [h0, false_or]
  split
  · rfl
  split
  · rfl
  rcases exponent_cases e with ⟨j, rfl⟩ | ⟨j, hj, rfl⟩
  · rw [if_pos (by omega), Int.toNat_neg_natCast, Nat.pow_zero]
    rfl
  · rw [if_neg (by omega), Int.toNat_neg_natCast, Nat.pow_zero, Nat.mul_one]
    rfl

/-- What is read depends on the number alone. -/
theorem ofDecimal?_mul_pow {digits : Nat} (h0 : digits ≠ 0) (negative : Bool) (k : Nat) (e : Int) :
    ofDecimal? negative (digits * 10 ^ k) (e - k) = ofDecimal? negative digits e := by
  have hk : digits * 10 ^ k ≠ 0 := Nat.mul_ne_zero h0 (Nat.pow_pos (by decide)).ne'
  have hmag : ((digitCount digits + k : Nat) : Int) + (e - k) = digitCount digits + e := by omega
  rw [ofDecimal?_eq hk, ofDecimal?_eq h0, digitCount_mul_pow h0, hmag]
  -- the two quotients differ by a power of ten above and below
  obtain ⟨c, hnum, hden⟩ : ∃ c : Nat, k + (e - k).toNat = e.toNat + c ∧
      (-(e - k)).toNat = (-e).toNat + c := ⟨(-(e - k)).toNat - (-e).toNat, by omega, by omega⟩
  rw [Nat.mul_assoc, ← Nat.pow_add, hnum, hden, Nat.pow_add, Nat.pow_add, ← Nat.mul_assoc,
    ofRatio?_mul_right (Nat.pow_pos (by decide))]

theorem magnitude_shortest (tie : Tie) {units : Nat} (h : Representable units) (h0 : units ≠ 0) :
    -330 ≤ digitCount (shortest tie units).digits + (shortest tie units).exponent ∧
      digitCount (shortest tie units).digits + (shortest tie units).exponent ≤ 310 := by
  have hn := near_shortest tie h h0
  exact ⟨hn.neg_le_magnitude h h0 (n := 330) (by decide +kernel),
    hn.magnitude_le h h0 (n := 310) (by decide +kernel)⟩

/-- The shortest decimal of a double is read as the double. -/
theorem ofDecimal?_shortest (tie : Tie) {d : Binary64} (h0 : d.units ≠ 0) :
    ofDecimal? d.negative (shortest tie d.units).digits (shortest tie d.units).exponent =
      some d := by
  have hn := near_shortest tie d.representable h0
  obtain ⟨hlow, hhigh⟩ := magnitude_shortest tie d.representable h0
  exact ofDecimal?_of_round (hn.digits_ne_zero d.representable h0) hlow hhigh
    (roundUnits_of_holds d.representable h0 (gridStep_pos _) hn)

end Registrar.Binary64
