import Registrar.Proofs.Nearest
import Registrar.Violation

/-!
# Integers against integer bounds

Numbers are compared as doubles, so an integer is held against an integer bound up to rounding. Two
integers that round to one double are not told apart (`OneDouble`), and all others are compared as
they are (`Constraint.integer_bounds_iff`). Integers below `2 ^ 53` are doubles themselves
(`exists_signed_eq`), and two greater ones that are not told apart differ by at most one part in
`2 ^ 52` (`OneDouble.near`).
-/

namespace Registrar

open Binary64 Number

/-- There is a double that both integers round to. -/
def OneDouble (v b : Int) : Prop := ∃ d, Rounds (v * one) d ∧ Rounds (b * one) d

/-! ## Integers that are doubles -/

theorem exists_signed_eq {v : Int} (h : v.natAbs ≤ 2 ^ 53) :
    ∃ d : Binary64, d.signed = v * one := by
  have hlt : v.natAbs * one < overflow := by
    refine Nat.lt_of_le_of_lt (Nat.mul_le_mul_right one h) ?_
    decide +kernel
  have hmod := shiftLeft_mod v.natAbs 1074 (by rwa [Nat.one_shiftLeft])
  rw [← mul_one_shiftLeft] at hmod
  refine ⟨⟨decide (v * one < 0), v.natAbs * one, hlt, hmod⟩, ?_⟩
  rw [signed_of_negative rfl, Int.natCast_mul]
  split
  · rename_i hneg
    have hv : -(v.natAbs : Int) = v := by
      have := mul_one_neg_iff.1 hneg
      omega
    rw [← Int.neg_mul, hv]
  · rename_i hpos
    have hv : (v.natAbs : Int) = v := by
      have := mul_one_neg_iff.not.1 hpos
      omega
    rw [hv]

/-- An integer is on the same side of a small one as its double is. -/
theorem rounds_side {v t : Int} {d : Binary64} (hd : Rounds (v * one) d) (ht : t.natAbs ≤ 2 ^ 53) :
    (t ≤ v → t * one ≤ d.signed) ∧ (v ≤ t → d.signed ≤ t * one) := by
  obtain ⟨e, he⟩ := exists_signed_eq ht
  have hone : (0 : Int) ≤ one := Int.natCast_nonneg _
  rw [← he]
  constructor
  · intro h
    refine (rounds_signed e).mono hd ?_
    rw [he]
    exact Int.mul_le_mul_of_nonneg_right h hone
  · intro h
    refine hd.mono (rounds_signed e) ?_
    rw [he]
    exact Int.mul_le_mul_of_nonneg_right h hone

namespace OneDouble

variable {v b : Int}

theorem symm (h : OneDouble v b) : OneDouble b v := by
  obtain ⟨d, hv, hb⟩ := h
  exact ⟨d, hb, hv⟩

/-- An integer below `2 ^ 53` is the only one that rounds to its double. -/
theorem eq_of_small (h : OneDouble v b) (hv : v.natAbs < 2 ^ 53) : v = b := by
  obtain ⟨d, hvd, hbd⟩ := h
  have hone : (0 : Int) < one := Int.natCast_pos.2 pos_one
  have hle : ∀ {s t : Int}, s * one ≤ t * one → s ≤ t := fun h =>
    Int.le_of_mul_le_mul_right h hone
  have hd : d.signed = v * one :=
    Int.le_antisymm ((rounds_side hvd hv.le).2 le_rfl) ((rounds_side hvd hv.le).1 le_rfl)
  have hside : ∀ t : Int, t.natAbs ≤ 2 ^ 53 → (t ≤ b → t ≤ v) ∧ (b ≤ t → v ≤ t) := by
    intro t ht
    obtain ⟨hlow, hhigh⟩ := rounds_side hbd ht
    rw [hd] at hlow hhigh
    exact ⟨fun h => hle (hlow h), fun h => hle (hhigh h)⟩
  -- `b` is below `2 ^ 53` too, since `v` is
  have hup := hside (2 ^ 53) (by omega)
  have hdown := hside (-2 ^ 53) (by omega)
  have hb := hside b (by omega)
  omega

/-- Two integers with one double are near each other, as measured by the greater one. -/
theorem near (hv : IsWord v) (hb : IsWord b) (h : OneDouble v b) :
    2 ^ 52 * (v - b).natAbs ≤ max v.natAbs b.natAbs := by
  obtain ⟨d, hvd, hbd⟩ := h
  have herr : ∀ {i : Int} (hi : IsWord i), Rounds (i * one) d →
      2 ^ 53 * (d.signed - i * one).natAbs ≤ i.natAbs * one := by
    intro i hi hd
    have hle := (int i hi).rounding_error
    rw [(int i hi).rounds_toDouble.signed_eq hd] at hle
    rwa [Number.signed, Int.natAbs_mul, Int.natAbs_natCast] at hle
  have hverr := herr hv hvd
  have hberr := herr hb hbd
  have hsub : (v - b).natAbs * one = (v * one - b * one).natAbs := by
    rw [← Int.sub_mul, Int.natAbs_mul, Int.natAbs_natCast]
  have hmaxv := Nat.mul_le_mul_right one (Nat.le_max_left v.natAbs b.natAbs)
  have hmaxb := Nat.mul_le_mul_right one (Nat.le_max_right v.natAbs b.natAbs)
  refine Nat.le_of_mul_le_mul_right ?_ pos_one
  rw [Nat.mul_assoc, hsub]
  omega

end OneDouble

/-! ## Bounds -/

theorem lt_toDouble_iff {v b : Int} (hv : IsWord v) (hb : IsWord b) :
    (int v hv).toDouble.lt (int b hb).toDouble = true ↔ v < b ∧ ¬ OneDouble v b := by
  have hvd : Rounds (v * one) (int v hv).toDouble := (int v hv).rounds_toDouble
  have hbd : Rounds (b * one) (int b hb).toDouble := (int b hb).rounds_toDouble
  have hone : (0 : Int) ≤ one := Int.natCast_nonneg _
  rw [lt, decide_eq_true_eq]
  rcases Int.lt_or_le v b with hlt | hge
  · have hmono := hvd.mono hbd (Int.mul_le_mul_of_nonneg_right hlt.le hone)
    have hsame : OneDouble v b ↔ (int v hv).toDouble.signed = (int b hb).toDouble.signed :=
      ⟨fun ⟨d, hd, hd'⟩ => (hvd.signed_eq hd).trans (hd'.signed_eq hbd),
        fun h => ⟨_, hvd.congr h, hbd⟩⟩
    rw [hsame]
    omega
  · have hmono := hbd.mono hvd (Int.mul_le_mul_of_nonneg_right hge hone)
    omega

namespace Constraint

/-- The constraint of a kind with an integer for its argument. -/
def ofInt (kind : ConstraintKind) (b : Int) (hb : IsWord b) : Constraint :=
  { type := kind.tag, value := .number (int b hb) }

theorem kind?_ofInt (kind : ConstraintKind) (b : Int) (hb : IsWord b) :
    (ofInt kind b hb).kind? = some kind := by
  have htag : ConstraintKind.ofTag? kind.tag = some kind := by
    cases kind <;> decide +kernel
  exact htag

variable {c : Constraint} {field : String}

theorem isSome_min {x y : Number} (hk : c.kind? = some .min) (hc : c.value = .number y) :
    (c.violation? field (.number x)).isSome = x.toDouble.lt y.toDouble := by
  rw [violation?_of_kind hk, Option.isSome_map, hc]
  cases h : x.toDouble.lt y.toDouble <;> simp [breach?, belowMin, Value.toDouble?, h]

theorem isSome_max {x y : Number} (hk : c.kind? = some .max) (hc : c.value = .number y) :
    (c.violation? field (.number x)).isSome = y.toDouble.lt x.toDouble := by
  rw [violation?_of_kind hk, Option.isSome_map, hc]
  cases h : y.toDouble.lt x.toDouble <;> simp [breach?, aboveMax, Value.toDouble?, h]

/-- An integer breaks an integer bound if and only if it is beyond the bound and told apart from it;
and different integers are told apart unless both reach `2 ^ 53` and they differ by at most one part
in `2 ^ 52`. -/
theorem integer_bounds_iff {v b : Int} (hv : IsWord v) (hb : IsWord b) :
    (∀ c : Constraint, c.value = .number (int b hb) → ∀ field : String,
      (c.kind? = some .min →
        ((c.violation? field (.number (int v hv))).isSome = true ↔ v < b ∧ ¬ OneDouble v b)) ∧
      (c.kind? = some .max →
        ((c.violation? field (.number (int v hv))).isSome = true ↔ b < v ∧ ¬ OneDouble v b))) ∧
    (OneDouble v b → v ≠ b → 2 ^ 53 ≤ v.natAbs ∧ 2 ^ 53 ≤ b.natAbs ∧
      2 ^ 52 * (v - b).natAbs ≤ max v.natAbs b.natAbs) := by
  refine ⟨fun c hc field => ⟨fun hk => ?_, fun hk => ?_⟩, fun h hne => ⟨?_, ?_, h.near hv hb⟩⟩
  · rw [isSome_min hk hc, lt_toDouble_iff]
  · have hcomm : OneDouble v b ↔ OneDouble b v := ⟨.symm, .symm⟩
    rw [isSome_max hk hc, lt_toDouble_iff, hcomm]
  · exact Nat.not_lt.1 fun hlt => hne (h.eq_of_small hlt)
  · exact Nat.not_lt.1 fun hlt => hne (h.symm.eq_of_small hlt).symm

/-- At `2 ^ 53` the next integer is not told apart, and the one after it is. -/
theorem second_integer_told_apart :
    IsWord 0x20000000000000 ∧ IsWord 0x20000000000001 ∧ IsWord 0x20000000000002 ∧
      OneDouble 0x20000000000000 0x20000000000001 ∧
      ¬ OneDouble 0x20000000000000 0x20000000000002 := by
  have h0 : IsWord 0x20000000000000 := by decide
  have h1 : IsWord 0x20000000000001 := by decide
  have h2 : IsWord 0x20000000000002 := by decide
  have hone := ((integer_bounds_iff h0 h1).1 (ofInt .min _ h1) rfl "total").1 (kind?_ofInt _ _ _)
  have htwo := ((integer_bounds_iff h0 h2).1 (ofInt .min _ h2) rfl "total").1 (kind?_ofInt _ _ _)
  have hkept : ¬ ((ofInt .min 0x20000000000001 (by decide)).violation? "total"
      (.number (int 0x20000000000000 (by decide)))).isSome = true := by
    decide +kernel
  have hbroken : ((ofInt .min 0x20000000000002 (by decide)).violation? "total"
      (.number (int 0x20000000000000 (by decide)))).isSome = true := by
    decide +kernel
  refine ⟨h0, h1, h2, ?_, (htwo.1 hbroken).2⟩
  by_contra hne
  exact hkept (hone.2 ⟨by decide, hne⟩)

/-- An integer below the least one that is allowed, and one above the greatest, that are not
reported. -/
theorem adjacent_integers_kept :
    (0x20000000000000 : Int) < 0x20000000000001 ∧
      (ofInt .min 0x20000000000001 (by decide)).violation? "total"
        (.number (int 0x20000000000000 (by decide))) = none ∧
      (ofInt .max 0x20000000000000 (by decide)).violation? "total"
        (.number (int 0x20000000000001 (by decide))) = none := by
  decide +kernel

end Constraint

end Registrar
