import Registrar.Proofs.Rounding
import Registrar.Value

/-!
# The nearest double

`Binary64.Rounds x d` says what rounding has to give, without reference to how it is computed: no
double is nearer to `x` units than `d`, and where another one is as near the significand of `d` is
even. There is at most one such double, but for the sign of zero (`Binary64.Rounds.signed_eq`), and
a greater number does not round to a lesser one (`Binary64.Rounds.mono`). The double that a number
is compared as is the one that it rounds to (`Number.rounds_toDouble`).
-/

namespace Registrar

namespace Binary64

/-! ## Rounding a quotient -/

theorem div_le_roundDiv (num den : Nat) : num / den ≤ roundDiv num den := by
  unfold roundDiv
  simp only
  split
  · omega
  · split <;> omega

/-- Rounding a quotient moves it by one half at most, and by one half only to an even number. -/
theorem roundDiv_near (num : Nat) {den : Nat} (hd : 0 < den) :
    2 * (roundDiv num den * den) ≤ 2 * num + den ∧ 2 * num ≤ 2 * (roundDiv num den * den) + den ∧
      (2 * (roundDiv num den * den) = 2 * num + den ∨ 2 * num = 2 * (roundDiv num den * den) + den →
        roundDiv num den % 2 = 0) := by
  have hdiv := Nat.div_add_mod num den
  have hmod := Nat.mod_lt num hd
  rw [Nat.mul_comm] at hdiv
  unfold roundDiv
  simp only
  split
  · omega
  split
  · rw [Nat.add_mul]
    omega
  · rcases Nat.mod_two_eq_zero_or_one (num / den) with h | h
    · rw [h, Nat.add_zero]
      omega
    · rw [h, Nat.add_mul]
      omega

/-! ## Significands -/

/-- The number of spacings in a magnitude. -/
def significand (units : Nat) : Nat := units / gap units

theorem lt_mul_gap (n : Nat) : n < 2 ^ 53 * gap n := by
  by_cases hn : n = 0
  · subst hn
    decide
  · rw [gap, ← Nat.pow_add, ← Nat.log2_lt hn]
    omega

theorem gap_eq_one_or_le (n : Nat) : gap n = 1 ∨ 2 ^ 52 * gap n ≤ n := by
  by_cases hs : n.log2 - 52 = 0
  · exact .inl (by rw [gap, hs, Nat.pow_zero])
  · have hn : n ≠ 0 := by
      rintro rfl
      exact hs (by decide)
    refine .inr ?_
    rw [gap, ← Nat.pow_add, ← Nat.le_log2 hn]
    omega

/-- A significand of 53 bits, or one of fewer bits with the least spacing. -/
theorem gap_mul {m s : Nat} (hlow : s = 0 ∨ 2 ^ 52 ≤ m) (hhigh : m < 2 ^ 53) :
    gap (m * 2 ^ s) = 2 ^ s := by
  rw [gap, log2_sub_eq (hlow.imp_right fun h => Nat.mul_le_mul_right _ h)
    (Nat.mul_lt_mul_of_pos_right hhigh (Nat.two_pow_pos s))]

theorem significand_mul {m s : Nat} (hlow : s = 0 ∨ 2 ^ 52 ≤ m) (hhigh : m < 2 ^ 53) :
    significand (m * 2 ^ s) = m := by
  rw [significand, gap_mul hlow hhigh, Nat.mul_div_cancel _ (Nat.two_pow_pos s)]

theorem significand_spec {units : Nat} (h : Representable units) :
    units = significand units * gap units ∧ significand units < 2 ^ 53 ∧
      (units.log2 - 52 = 0 ∨ 2 ^ 52 ≤ significand units) := by
  by_cases h0 : units = 0
  · subst h0
    decide
  · obtain ⟨m, hm, -, hlt, hnorm⟩ := exists_significand h h0
    have hs : significand units = m := Nat.div_eq_of_eq_mul_left (gap_pos units) hm
    rw [hs]
    exact ⟨hm, hlt, hnorm⟩

/-- Different multiples of a spacing are at least the spacing apart. -/
theorem mul_add_le_mul {i j : Nat} (h : i < j) (g : Nat) : i * g + g ≤ j * g := by
  rw [← Nat.succ_mul]
  exact Nat.mul_le_mul_right g h

/-- Of two spacings the greater is a multiple of the lesser, and at least twice as wide if they
differ. -/
theorem gap_dvd_or_lt (a b : Nat) : gap a ∣ gap b ∨ 2 * gap b ≤ gap a := by
  rcases Nat.lt_or_ge (b.log2 - 52) (a.log2 - 52) with h | h
  · refine .inr ?_
    rw [gap, gap, ← Nat.pow_succ']
    exact Nat.pow_le_pow_right (by decide) h
  · exact .inl (Nat.pow_dvd_pow 2 h)

/-! ## Rounding a count of units -/

theorem roundUnits_one (n : Nat) : roundUnits n 1 = roundDiv n (gap n) * gap n := by
  simp only [roundUnits, Nat.div_one, Nat.shiftLeft_eq, Nat.one_mul]
  rfl

theorem roundUnits_near (n : Nat) :
    2 * roundUnits n 1 ≤ 2 * n + gap n ∧ 2 * n ≤ 2 * roundUnits n 1 + gap n := by
  obtain ⟨hlow, hhigh, -⟩ := roundDiv_near n (gap_pos n)
  rw [roundUnits_one]
  exact ⟨hlow, hhigh⟩

theorem even_significand_roundUnits {n : Nat} (h : roundDiv n (gap n) % 2 = 0) :
    significand (roundUnits n 1) % 2 = 0 := by
  have hlow : n.log2 - 52 = 0 ∨ 2 ^ 52 ≤ roundDiv n (gap n) := by
    refine (gap_eq_one_or_le n).imp (fun hone => ?_) fun hle => ?_
    · exact (Nat.pow_eq_one.1 hone).resolve_left (by decide)
    · exact Nat.le_trans ((Nat.le_div_iff_mul_le (gap_pos n)).2 hle) (div_le_roundDiv _ _)
  have hhigh : roundDiv n (gap n) ≤ 2 ^ 53 := by
    have hle := roundDiv_mantissa_le n 1
    rwa [Nat.div_one, Nat.one_shiftLeft, Nat.one_shiftLeft] at hle
  rw [roundUnits_one]
  rcases Nat.lt_or_eq_of_le hhigh with hlt | heq
  · have hsame : significand (roundDiv n (gap n) * gap n) = roundDiv n (gap n) :=
      significand_mul hlow hlt
    rwa [hsame]
  · -- the quotient has a bit too many, and the significand is half of it
    have htwo : 2 ^ 53 * gap n = 2 ^ 52 * 2 ^ (n.log2 - 52 + 1) := by
      rw [gap]
      ring
    rw [heq, htwo, significand_mul (.inr Nat.le.refl) (by decide)]
    rfl

/-- No magnitude is nearer to a count than what it is rounded to. -/
theorem roundUnits_nearest (n : Nat) {y : Nat} (hy : Representable y) :
    ((roundUnits n 1 : Int) - n).natAbs ≤ ((y : Int) - n).natAbs ∧
      (((roundUnits n 1 : Int) - n).natAbs = ((y : Int) - n).natAbs → y ≠ roundUnits n 1 →
        significand (roundUnits n 1) % 2 = 0) := by
  obtain ⟨hlow, hhigh, htie⟩ := roundDiv_near n (gap_pos n)
  obtain ⟨hmul, hlt, -⟩ := significand_spec hy
  have heven := even_significand_roundUnits (n := n)
  have hone := roundUnits_one n
  rw [← hone] at hlow hhigh htie
  rcases gap_dvd_or_lt n y with hdvd | hwide
  · -- both are multiples of the spacing at `n`
    obtain ⟨j, hj⟩ : gap n ∣ y := hmul ▸ hdvd.mul_left _
    rw [Nat.mul_comm] at hj
    have hapart : y = roundUnits n 1 ∨ y + gap n ≤ roundUnits n 1 ∨
        roundUnits n 1 + gap n ≤ y := by
      rw [hone, hj]
      rcases Nat.lt_trichotomy j (roundDiv n (gap n)) with h | h | h
      · exact .inr (.inl (mul_add_le_mul h _))
      · exact .inl (by rw [h])
      · exact .inr (.inr (mul_add_le_mul h _))
    have hpos := gap_pos n
    exact ⟨by omega, fun he hne => heven (htie (by omega))⟩
  · -- `y` is below all that `n` can be rounded to
    have hpos := gap_pos y
    have hleast : 2 ^ 52 * gap n ≤ n := (gap_eq_one_or_le n).resolve_left (by omega)
    have hbelow : y < 2 ^ 52 * gap n := by
      have hle := Nat.mul_le_mul_left (2 ^ 52) hwide
      have hy := lt_mul_gap y
      omega
    have hk : roundUnits n 1 = 2 ^ 52 * gap n ∨ 2 ^ 52 * gap n + gap n ≤ roundUnits n 1 := by
      have hge := Nat.le_trans ((Nat.le_div_iff_mul_le (gap_pos n)).2 hleast)
        (div_le_roundDiv n (gap n))
      rw [hone]
      rcases Nat.lt_or_eq_of_le hge with h | h
      · exact .inr (mul_add_le_mul h _)
      · exact .inl (by rw [← h])
    exact ⟨by omega, fun he hne => absurd he (by omega)⟩

/-- Between two magnitudes with even significands there is a third. -/
theorem exists_between {a b : Nat} (ha : Representable a) (hb : Representable b) (hab : a < b)
    (ha2 : significand a % 2 = 0) (hb2 : significand b % 2 = 0) :
    ∃ c, Representable c ∧ a < c ∧ c < b := by
  obtain ⟨hmul, hlt, hnorm⟩ := significand_spec ha
  obtain ⟨hmul', -, -⟩ := significand_spec hb
  have hpos := gap_pos a
  have hnext : (significand a + 1) * gap a = a + gap a := by
    rw [Nat.add_mul, Nat.one_mul, ← hmul]
  -- the next magnitude has an odd significand, so it is not `b`
  have hne : b ≠ a + gap a := by
    intro he
    have hodd : significand (a + gap a) = significand a + 1 := by
      rw [← hnext, gap]
      exact significand_mul (hnorm.imp_right fun h => by omega) (by omega)
    rw [he, hodd] at hb2
    omega
  have hle : a + gap a ≤ b := by
    have hlog : a.log2 ≤ b.log2 := by
      by_cases h0 : a = 0
      · subst h0
        exact Nat.zero_le _
      · exact (Nat.le_log2 (by omega)).2 (Nat.le_trans (Nat.log2_self_le h0) hab.le)
    have hdvd : gap a ∣ b := by
      rw [hmul']
      exact (Nat.pow_dvd_pow 2 (by omega)).mul_left _
    obtain ⟨j, hj⟩ := hdvd
    rw [Nat.mul_comm] at hj
    have hlt : significand a < j := by
      refine Nat.lt_of_mul_lt_mul_right (a := gap a) ?_
      rw [← hmul, ← hj]
      exact hab
    have hle := mul_add_le_mul hlt (gap a)
    rwa [← hmul, ← hj] at hle
  refine ⟨a + gap a, ⟨by have := hb.1; omega, ?_⟩, by omega, by omega⟩
  have hmod := shiftLeft_mod (significand a + 1) (a.log2 - 52) (by
    rw [Nat.one_shiftLeft]
    omega)
  rwa [Nat.shiftLeft_eq _ (a.log2 - 52), ← gap, hnext] at hmod

/-! ## What rounding gives -/

/-- The number of `x` units rounds to `d`: no double is nearer to it, and if another one is as near
the significand of `d` is even. -/
structure Rounds (x : Int) (d : Binary64) : Prop where
  nearest : ∀ e : Binary64, (d.signed - x).natAbs ≤ (e.signed - x).natAbs
  even : ∀ e : Binary64, (d.signed - x).natAbs = (e.signed - x).natAbs → e.signed ≠ d.signed →
    significand d.units % 2 = 0

theorem signed_cases (d : Binary64) : d.signed = d.units ∨ d.signed = -d.units := by
  unfold signed
  split
  · exact .inr rfl
  · exact .inl rfl

theorem natAbs_signed (d : Binary64) : d.signed.natAbs = d.units := by
  have := d.signed_cases
  omega

/-- Between two doubles with even significands there is a third, if one is greater in magnitude. -/
theorem exists_signed_between {d e : Binary64} (h : d.units < e.units)
    (hd : significand d.units % 2 = 0) (he : significand e.units % 2 = 0) :
    ∃ f : Binary64, min d.signed e.signed < f.signed ∧ f.signed < max d.signed e.signed := by
  obtain ⟨c, hc, hlow, hhigh⟩ := exists_between d.representable e.representable h hd he
  have hcd := d.signed_cases
  rcases e.signed_cases with hce | hce
  · have hf : (Binary64.mk false c hc).signed = c := rfl
    exact ⟨⟨false, c, hc⟩, by omega⟩
  · have hf : (Binary64.mk true c hc).signed = -c := rfl
    exact ⟨⟨true, c, hc⟩, by omega⟩

theorem rounds_signed (d : Binary64) : Rounds d.signed d :=
  ⟨fun e => by omega, fun e he hne => absurd he (by omega)⟩

section
variable {x : Int} {d : Binary64} (hs : d.negative = decide (x < 0))
include hs

theorem signed_of_negative : d.signed = if x < 0 then -(d.units : Int) else d.units := by
  simp only [signed, hs, decide_eq_true_eq]

variable (hu : d.units = roundUnits x.natAbs 1)
include hu

theorem distance_of_magnitude :
    (d.signed - x).natAbs = ((roundUnits x.natAbs 1 : Int) - x.natAbs).natAbs := by
  rw [signed_of_negative hs, ← hu]
  split <;> omega

/-- What is rounded by its magnitude and keeps its sign is rounded. -/
theorem rounds_of_magnitude : Rounds x d := by
  have hsigned := signed_of_negative hs
  have hdist := distance_of_magnitude hs hu
  have hnear := fun e : Binary64 => roundUnits_nearest x.natAbs e.representable
  -- zero is rounded to zero, which has no sign to keep
  have hzero : x = 0 → d.units = 0 := by
    rintro rfl
    exact hu.trans (by decide)
  constructor
  · intro e
    have hle := (hnear e).1
    have hcases := e.signed_cases
    omega
  · intro e he hne
    have hle := (hnear e).1
    have hcases := e.signed_cases
    rw [hu]
    refine (hnear e).2 (by omega) fun hunits => ?_
    rw [← hu] at hunits
    rw [hsigned] at he hne
    split at he <;> omega

end

namespace Rounds

variable {x y : Int} {d e : Binary64}

theorem congr (h : Rounds x d) (he : d.signed = e.signed) : Rounds x e := by
  have hunits : d.units = e.units := by rw [← natAbs_signed, he, natAbs_signed]
  refine ⟨fun f => he ▸ h.nearest f, fun f => ?_⟩
  rw [← he, ← hunits]
  exact h.even f

/-- A number rounds to one double, but for the sign of zero. -/
theorem signed_eq (hd : Rounds x d) (he : Rounds x e) : d.signed = e.signed := by
  have hdist : (d.signed - x).natAbs = (e.signed - x).natAbs :=
    Nat.le_antisymm (hd.nearest e) (he.nearest d)
  by_contra hne
  have hd2 := hd.even e hdist (Ne.symm hne)
  have he2 := he.even d hdist.symm hne
  -- the number is midway between the two, so that no double is between them
  have hnone : ∀ f : Binary64, ¬ (min d.signed e.signed < f.signed ∧
      f.signed < max d.signed e.signed) := by
    intro f hf
    have hdf := hd.nearest f
    omega
  rcases Nat.lt_trichotomy d.units e.units with h | h | h
  · obtain ⟨f, hf⟩ := exists_signed_between h hd2 he2
    exact hnone f hf
  · -- they differ in their sign alone, and zero is between them
    have hzero := hnone (zero false)
    have hz : (zero false).signed = 0 := rfl
    have hcd := d.signed_cases
    have hce := e.signed_cases
    omega
  · obtain ⟨f, hf⟩ := exists_signed_between h he2 hd2
    exact hnone f (by rwa [min_comm, max_comm])

theorem mono (hd : Rounds x d) (he : Rounds y e) (h : x ≤ y) : d.signed ≤ e.signed := by
  by_cases hxy : x = y
  · subst hxy
    exact (hd.signed_eq he).le
  · have hde := hd.nearest e
    have hed := he.nearest d
    omega

end Rounds

end Binary64

/-! ## Numbers -/

namespace Number

open Binary64

/-- The number itself, in units, with its sign. -/
def signed : Number → Int
  | int i _ => i * one
  | double d => d.signed

theorem pos_one : 0 < one := by decide +kernel

theorem mul_one_neg_iff {i : Int} : i * one < 0 ↔ i < 0 := by
  have hone : (0 : Int) < one := Int.natCast_pos.2 pos_one
  constructor
  · intro h
    by_contra hge
    have := Int.mul_nonneg (Int.not_lt.1 hge) hone.le
    omega
  · exact fun h => Int.mul_neg_of_neg_of_pos h hone

section
variable (i : Int) (h : i.natAbs < 1 <<< 65)

theorem units_ofInt : (ofInt i h).units = roundUnits (i * one).natAbs 1 := by
  rw [Int.natAbs_mul, Int.natAbs_natCast]
  rfl

theorem negative_ofInt : (ofInt i h).negative = decide (i * one < 0) :=
  decide_eq_decide.2 mul_one_neg_iff.symm

end

/-- A number is compared as the double that it rounds to. -/
theorem rounds_toDouble (n : Number) : Rounds n.signed n.toDouble := by
  cases n with
  | int i h => exact rounds_of_magnitude (negative_ofInt i h.natAbs_lt) (units_ofInt i h.natAbs_lt)
  | double d => exact rounds_signed d

/-- Rounding moves a number by at most one part in `2 ^ 53`. -/
theorem rounding_error (n : Number) :
    2 ^ 53 * (n.toDouble.signed - n.signed).natAbs ≤ n.signed.natAbs := by
  cases n with
  | int i h =>
    have hdist := distance_of_magnitude (negative_ofInt i h.natAbs_lt) (units_ofInt i h.natAbs_lt)
    have hnear := roundUnits_near (i * one).natAbs
    rw [toDouble, signed, hdist]
    rcases gap_eq_one_or_le (i * one).natAbs with hone | hle
    · -- within half of a unit there is only the number itself
      omega
    · omega
  | double d => simp [toDouble, signed]

end Number

end Registrar
