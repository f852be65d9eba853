import Registrar.Json.Cursor
import Registrar.Proofs.Rounding
import Mathlib.Data.List.TakeWhile

/-!
# Numbers in JSON text

A number is read back as it was written: `readNumber_text`. What reads a numeral is shown on the
parts of it, digits, point and exponent (`readNumeral_chars`), each up to a text that does not go on
with the numeral (`EndsNumber`). The two layouts of a double, positional and with an exponent, then
give numerals of the same value.
-/

namespace Registrar.Json

open Text

/-! ## Digits -/

/-- The text does not go on with a number that ends before it. -/
def EndsNumber (rest : List Char) : Prop :=
  ∀ c ∈ rest.head?, c.isDigit = false ∧ c ≠ '.' ∧ c ≠ 'e' ∧ c ≠ 'E'

theorem takeDigits_append {ds rest : List Char} (hd : ∀ c ∈ ds, c.isDigit = true)
    (hr : ∀ c ∈ rest.head?, c.isDigit = false) (o : Nat) :
    takeDigits ⟨ds ++ rest, o⟩ = (ds, ⟨rest, o + ds.length⟩) := by
  have hnone : rest.takeWhile Char.isDigit = [] := by
    cases rest with
    | nil => rfl
    | cons c cs => exact List.takeWhile_cons_of_neg (by simp [hr c rfl])
  simp only [takeDigits, Cursor.past, List.takeWhile_append_of_pos hd, hnone, List.append_nil,
    List.drop_left]

theorem decimalValue_eq (ds : List Char) : decimalValue ds = Nat.ofDigitChars 10 ds 0 := rfl

theorem isDigit_toDigits {n : Nat} {c : Char} (h : c ∈ Nat.toDigits 10 n) : c.isDigit = true :=
  Nat.isDigit_of_mem_toDigits (by decide) (by decide) h

/-! ## The parts of a numeral -/

/-- A point and the digits after it, if there are any. -/
def pointChars (fraction : List Char) : List Char :=
  if fraction = [] then [] else '.' :: fraction

/-- An exponent with its sign, if there is one. -/
def powerChars : Option Int → List Char
  | none => []
  | some e => 'e' :: (if e < 0 then '-' else '+') :: Nat.toDigits 10 e.natAbs

theorem readWhole_append {ds rest : List Char} (hne : ds ≠ []) (hd : ∀ c ∈ ds, c.isDigit = true)
    (hz : ds.head? = some '0' → ds = ['0']) (hr : ∀ c ∈ rest.head?, c.isDigit = false) (o : Nat) :
    readWhole ⟨ds ++ rest, o⟩ = .ok (ds, ⟨rest, o + ds.length⟩) := by
  obtain ⟨d, ds, rfl⟩ := List.exists_cons_of_ne_nil hne
  have htake := takeDigits_append hd hr o
  by_cases h0 : d = '0'
  · subst h0
    have hnil : ds = [] := (List.cons.inj (hz rfl)).2
    subst hnil
    cases rest with
    | nil => rfl
    | cons c cs =>
      have hc : c.isDigit = false := hr c rfl
      simp [readWhole, hc, Cursor.past]
  · unfold readWhole
    split
    · rename_i h
      cases h
    · rename_i h
      exact absurd (List.cons.inj h).1 h0
    · rename_i h
      obtain ⟨rfl, -⟩ := List.cons.inj h
      rw [if_pos (hd _ List.mem_cons_self), htake]

theorem readFraction_append {fraction rest : List Char} (hd : ∀ c ∈ fraction, c.isDigit = true)
    (hr : ∀ c ∈ rest.head?, c.isDigit = false ∧ c ≠ '.') (o : Nat) :
    ∃ f, readFraction ⟨pointChars fraction ++ rest, o⟩ =
        .ok (f, ⟨rest, o + (pointChars fraction).length⟩) ∧
      f.getD [] = fraction ∧ f.isNone = decide (fraction = []) := by
  unfold pointChars
  split
  · rename_i h
    subst h
    refine ⟨none, ?_, rfl, rfl⟩
    unfold readFraction
    split
    · rename_i h
      exact absurd rfl (hr '.' (by rw [show rest = _ from h]; rfl)).2
    · rfl
  · rename_i h
    obtain ⟨d, ds, rfl⟩ := List.exists_cons_of_ne_nil h
    have htake := takeDigits_append hd (fun c hc => (hr c hc).1) (o + 1)
    refine ⟨some (d :: ds), ?_, rfl, rfl⟩
    simp only [readFraction, List.cons_append, Cursor.past, List.drop_succ_cons,
      List.drop_zero] at *
    rw [htake]
    simp only [List.length_cons, Nat.add_assoc, Nat.add_comm 1]

/-! ## Exponents -/

theorem le_ofDigitChars (ds : List Char) (n : Nat) : n ≤ Nat.ofDigitChars 10 ds n := by
  induction ds generalizing n with
  | nil => exact Nat.le.refl
  | cons d ds ih =>
    rw [Nat.ofDigitChars_cons]
    exact Nat.le_trans (by omega) (ih _)

theorem exponentLimit_eq_none {ds : List Char} {n : Nat} (h : Nat.ofDigitChars 10 ds n < 1 <<< 31)
    (o : Nat) : exponentLimit n o ds = none := by
  induction ds generalizing n o with
  | nil => rfl
  | cons d ds ih =>
    rw [Nat.ofDigitChars_cons] at h
    have hlt := Nat.lt_of_le_of_lt (le_ofDigitChars ds _) h
    exact (if_neg (Nat.not_le.2 hlt)).trans (ih h _)

/-- The digits of an exponent are read to its value, with its sign. -/
theorem readPower_append {e : Int} (he : e.natAbs < 1 <<< 31) {rest : List Char}
    (hr : ∀ c ∈ rest.head?, c.isDigit = false) (o : Nat) (isZero : Bool) :
    readPower ⟨(if e < 0 then '-' else '+') :: Nat.toDigits 10 e.natAbs ++ rest, o⟩ isZero =
      .ok (e, ⟨rest, o + 1 + (Nat.toDigits 10 e.natAbs).length⟩) := by
  have htake := takeDigits_append (fun _ => isDigit_toDigits (n := e.natAbs)) hr (o + 1)
  have hlimit : exponentLimit 0 (o + 1) (Nat.toDigits 10 e.natAbs) = none :=
    exponentLimit_eq_none (by rwa [Nat.ofDigitChars_ten_toDigits]) _
  have hvalue : decimalValue (Nat.toDigits 10 e.natAbs) = e.natAbs :=
    Nat.ofDigitChars_ten_toDigits
  obtain ⟨d, ds, hds⟩ := List.exists_cons_of_ne_nil (Nat.toDigits_ne_nil (n := e.natAbs) (b := 10))
  rw [hds] at htake hlimit hvalue ⊢
  rw [List.cons_append] at htake ⊢
  by_cases hn : e < 0
  · simp only [readPower, hn, if_true, Cursor.past, List.cons_append, List.drop_succ_cons,
      List.drop_zero, htake, hlimit, hvalue]
    rw [show -((e.natAbs : Nat) : Int) = e by omega]
  · simp only [readPower, hn, if_false, Cursor.past, List.cons_append, List.drop_succ_cons,
      List.drop_zero, htake, hlimit, hvalue]
    rw [if_neg Bool.false_ne_true, show ((e.natAbs : Nat) : Int) = e by omega]

theorem readExponent_append {power : Option Int} {rest : List Char}
    (hp : ∀ e ∈ power, e.natAbs < 1 <<< 31) (hr : EndsNumber rest) (o : Nat) (isZero : Bool) :
    ∃ o', readExponent ⟨powerChars power ++ rest, o⟩ isZero = .ok (power, ⟨rest, o'⟩) := by
  cases power with
  | none =>
    refine ⟨o, ?_⟩
    unfold readExponent powerChars
    split
    · rename_i h
      exact absurd rfl (hr 'e' (by rw [show rest = _ from h]; rfl)).2.2.1
    · rename_i h
      exact absurd rfl (hr 'E' (by rw [show rest = _ from h]; rfl)).2.2.2
    · rfl
  | some e =>
    have hpower := readPower_append (hp e rfl) (fun c hc => (hr c hc).1) (o + 1) isZero
    refine ⟨o + 1 + 1 + (Nat.toDigits 10 e.natAbs).length, ?_⟩
    simp only [readExponent, powerChars, List.cons_append, Cursor.past, List.drop_succ_cons,
      List.drop_zero] at *
    rw [hpower]
    rfl

/-! ## Numerals -/

/-- The characters of a numeral. -/
def numeralChars (whole fraction : List Char) (power : Option Int) : List Char :=
  whole ++ pointChars fraction ++ powerChars power

/-- The parts of a numeral can be read. -/
structure IsNumeral (whole fraction : List Char) (power : Option Int) : Prop where
  ne_nil : whole ≠ []
  digits : ∀ c ∈ whole ++ fraction, c.isDigit = true
  noLeadingZero : whole.head? = some '0' → whole = ['0']
  smallPower : ∀ e ∈ power, e.natAbs < 1 <<< 31

theorem readNumeral_chars {whole fraction : List Char} {power : Option Int}
    (h : IsNumeral whole fraction power) {rest : List Char} (hr : EndsNumber rest)
    (negative : Bool) (o : Nat) :
    ∃ o', readNumeral negative ⟨numeralChars whole fraction power ++ rest, o⟩ =
      .ok (⟨negative, decimalValue (whole ++ fraction), power.getD 0 - fraction.length,
        fraction = [] ∧ power = none⟩, ⟨rest, o'⟩) := by
  -- neither what follows the fraction nor what follows the digits before it goes on with a digit
  have hpower : ∀ c ∈ (powerChars power ++ rest).head?, c.isDigit = false ∧ c ≠ '.' := by
    cases power with
    | none => exact fun c hc => ⟨(hr c hc).1, (hr c hc).2.1⟩
    | some e =>
      rintro c hc
      cases hc
      decide
  have hpoint : ∀ c ∈ (pointChars fraction ++ (powerChars power ++ rest)).head?,
      c.isDigit = false := by
    unfold pointChars
    split
    · exact fun c hc => (hpower c hc).1
    · rintro c hc
      cases hc
      decide
  obtain ⟨f, hf, hfd, hfn⟩ := readFraction_append
    (fun c hc => h.digits c (List.mem_append_right _ hc)) hpower (o + whole.length)
  obtain ⟨o', he⟩ := readExponent_append h.smallPower hr
    (o + whole.length + (pointChars fraction).length) (decimalValue (whole ++ fraction) == 0)
  refine ⟨o', ?_⟩
  simp only [readNumeral, numeralChars, List.append_assoc]
  rw [readWhole_append h.ne_nil (fun c hc => h.digits c (List.mem_append_left _ hc))
    h.noLeadingZero hpoint]
  simp only [bind, Except.bind, hf, hfd, he, hfn]
  cases power <;> simp [pure, Except.pure]

theorem digit_ne {c d : Char} (h : c.isDigit = true) (hd : d.isDigit = false) : c ≠ d := by
  rintro rfl
  rw [h] at hd
  cases hd

theorem readNumber_minus {c after : Cursor} {cs : List Char} {m : Numeral} {n : Number}
    (hc : c.rest = '-' :: cs) (hm : readNumeral true (c.past 1) = .ok (m, after))
    (hn : m.number? = some n) : readNumber c = .ok (n, after) := by
  simp only [readNumber, hc, hm, bind, Except.bind, hn]

theorem readNumber_plain {c after : Cursor} {m : Numeral} {n : Number}
    (hc : ∀ cs, c.rest ≠ '-' :: cs) (hm : readNumeral false c = .ok (m, after))
    (hn : m.number? = some n) : readNumber c = .ok (n, after) := by
  unfold readNumber
  split
  · rename_i h
    exact absurd h (hc _)
  · simp only [hm, bind, Except.bind, hn]

/-- A number is read from its sign and its numeral. -/
theorem readNumber_chars {whole fraction : List Char} {power : Option Int}
    (h : IsNumeral whole fraction power) {rest : List Char} (hr : EndsNumber rest)
    {negative : Bool} {n : Number}
    (hn : Numeral.number? ⟨negative, decimalValue (whole ++ fraction),
      power.getD 0 - fraction.length, fraction = [] ∧ power = none⟩ = some n) (o : Nat) :
    ∃ o', readNumber ⟨(if negative then ['-'] else []) ++ numeralChars whole fraction power ++ rest,
      o⟩ = .ok (n, ⟨rest, o'⟩) := by
  cases negative with
  | true =>
    obtain ⟨o', ho⟩ := readNumeral_chars h hr true (o + 1)
    exact ⟨o', readNumber_minus rfl ho hn⟩
  | false =>
    obtain ⟨o', ho⟩ := readNumeral_chars h hr false o
    refine ⟨o', readNumber_plain (fun cs hc => ?_) ho hn⟩
    obtain ⟨d, ds, hd⟩ := List.exists_cons_of_ne_nil h.ne_nil
    have hdd : d ≠ '-' := digit_ne (h.digits d (by simp [hd])) rfl
    simp only [hd, numeralChars] at hc
    exact absurd (List.cons.inj hc).1 hdd

/-! ## Integers -/

theorem head?_toDigits {n : Nat} (h : (Nat.toDigits 10 n).head? = some '0') : n = 0 := by
  induction n using Nat.strongRecOn with
  | ind n ih =>
    by_cases hn : n < 10
    · rw [Nat.toDigits_of_lt_base hn, List.head?_cons, Option.some.injEq] at h
      exact Nat.digitChar_eq_zero.1 h
    · obtain ⟨d, ds, hd⟩ := List.exists_cons_of_ne_nil (Nat.toDigits_ne_nil (n := n / 10) (b := 10))
      rw [Nat.toDigits_of_base_le (by decide) (by omega), hd] at h
      have := ih (n / 10) (by omega) (by rw [hd]; exact h)
      omega

/-- The digits of a natural number are a numeral. -/
theorem isNumeral_toDigits (n : Nat) : IsNumeral (Nat.toDigits 10 n) [] none where
  ne_nil := Nat.toDigits_ne_nil
  digits c hc := isDigit_toDigits (by simpa using hc)
  noLeadingZero h := by rw [head?_toDigits h, Nat.toDigits_zero]
  smallPower _ he := nomatch he

theorem toList_toString_int (i : Int) : (toString i).toList =
    (if decide (i < 0) then ['-'] else []) ++ numeralChars (Nat.toDigits 10 i.natAbs) [] none := by
  rw [Int.toString_eq_repr, Int.repr_eq_if]
  by_cases hi : i < 0
  · have habs : (-i).toNat = i.natAbs := by omega
    simp [hi, Int.not_le.2 hi, habs, numeralChars, pointChars, powerChars, Nat.toList_repr]
  · have habs : i.toNat = i.natAbs := by omega
    simp [hi, Int.not_lt.1 hi, habs, numeralChars, pointChars, powerChars, Nat.toList_repr]

theorem ofDecimal?_int {i : Int} (h : IsWord i) :
    Number.ofDecimal? (i < 0) i.natAbs 0 true = some (.int i h) := by
  have hi : (if decide (i < 0) = true then -(i.natAbs : Int) else i.natAbs) = i := by
    split <;> rename_i hneg <;> rw [decide_eq_true_eq] at hneg <;> omega
  have hzero : ¬ (decide (i < 0) = true ∧ i.natAbs = 0) := by
    rw [decide_eq_true_eq]
    omega
  unfold Number.ofDecimal?
  simp only [hi]
  rw [dif_pos ⟨h, trivial, hzero⟩]

/-! ## Doubles -/

/-- The characters are a numeral, other than that of an integer, for the digits `ds` of which the
first stands for `10 ^ e`. -/
def Writes (ds : List Char) (e : Int) (cs : List Char) : Prop :=
  ∃ whole fraction power, ∃ k : Nat, cs = numeralChars whole fraction power ∧
    IsNumeral whole fraction power ∧ ¬ (fraction = [] ∧ power = none) ∧
    decimalValue (whole ++ fraction) = decimalValue ds * 10 ^ (k : Nat) ∧
    power.getD 0 - fraction.length = e + 1 - ds.length - k

theorem decimalValue_append_zeros (ds : List Char) (k : Nat) :
    decimalValue (ds ++ List.replicate k '0') = decimalValue ds * 10 ^ k := by
  rw [decimalValue_eq, decimalValue_eq, Nat.ofDigitChars_append, Nat.ofDigitChars_replicate_zero,
    Nat.mul_comm]

theorem decimalValue_zeros_append (ds : List Char) (k : Nat) :
    decimalValue (List.replicate k '0' ++ ds) = decimalValue ds := by
  rw [decimalValue_eq, decimalValue_eq, Nat.ofDigitChars_append, Nat.ofDigitChars_replicate_zero,
    Nat.mul_zero]

/-- Whatever follows the digits, no zero comes first. -/
theorem head?_append_ne_zero {ds : List Char} (hne : ds ≠ []) (hz : ds.head? ≠ some '0')
    (l : List Char) : (ds ++ l).head? ≠ some '0' := by
  obtain ⟨d, ds', rfl⟩ := List.exists_cons_of_ne_nil hne
  exact hz

theorem head?_take_ne_zero {ds : List Char} (hz : ds.head? ≠ some '0') {n : Nat} (hn : 0 < n) :
    (ds.take n).head? ≠ some '0' := by
  rwa [List.head?_take, if_neg (Nat.ne_of_gt hn)]

section Layout

variable {ds : List Char} (hne : ds ≠ []) (hd : ∀ c ∈ ds, c.isDigit = true)

include hne hd

/-- A zero, the point, and zeros before the digits. -/
theorem writes_below_one {e : Int} (he : e < 0) :
    Writes ds e ('0' :: '.' :: List.replicate (-e - 1).toNat '0' ++ ds) := by
  refine ⟨['0'], List.replicate (-e - 1).toNat '0' ++ ds, none, 0, ?_, ?_, ?_, ?_, ?_⟩
  · simp [numeralChars, pointChars, powerChars, hne]
  · refine ⟨by simp, fun c hc => ?_, fun _ => rfl, nofun⟩
    simp only [List.cons_append, List.nil_append, List.mem_cons, List.mem_append,
      List.mem_replicate] at hc
    rcases hc with rfl | ⟨-, rfl⟩ | hc
    · rfl
    · rfl
    · exact hd c hc
  · simp [hne]
  · rw [Nat.pow_zero, Nat.mul_one, ← decimalValue_zeros_append ds ((-e - 1).toNat + 1)]
    rfl
  · simp only [Option.getD_none, List.length_append, List.length_replicate]
    omega

variable (hz : ds.head? ≠ some '0')

include hz

/-- Zeros after the digits, and one after the point. -/
theorem writes_padded {e : Int} (he : ¬ e < 0) (hle : ds.length ≤ e.toNat + 1) :
    Writes ds e (ds ++ List.replicate (e.toNat + 1 - ds.length) '0' ++ ['.', '0']) := by
  refine ⟨ds ++ List.replicate (e.toNat + 1 - ds.length) '0', ['0'], none,
    e.toNat + 1 - ds.length + 1, ?_, ?_, ?_, ?_, ?_⟩
  · simp [numeralChars, pointChars, powerChars]
  · refine ⟨by simp [hne], fun c hc => ?_,
      fun h => absurd h (head?_append_ne_zero hne hz _), nofun⟩
    simp only [List.mem_append, List.mem_replicate, List.mem_singleton] at hc
    rcases hc with (hc | ⟨-, rfl⟩) | rfl
    · exact hd c hc
    · rfl
    · rfl
  · simp
  · rw [List.append_assoc, ← List.replicate_succ', decimalValue_append_zeros]
  · simp only [Option.getD_none, List.length_singleton]
    omega

/-- The point among the digits. -/
theorem writes_split {e : Int} (he : ¬ e < 0) (hle : ¬ ds.length ≤ e.toNat + 1) :
    Writes ds e (ds.take (e.toNat + 1) ++ '.' :: ds.drop (e.toNat + 1)) := by
  have hdrop : ds.drop (e.toNat + 1) ≠ [] := by simpa using hle
  refine ⟨ds.take (e.toNat + 1), ds.drop (e.toNat + 1), none, 0, ?_, ?_, ?_, ?_, ?_⟩
  · simp [numeralChars, pointChars, powerChars, hdrop]
  · exact ⟨by simp [hne], fun c hc => hd c (by rwa [List.take_append_drop] at hc),
      fun h => absurd h (head?_take_ne_zero hz (Nat.succ_pos _)), nofun⟩
  · exact fun h => hdrop h.1
  · rw [List.take_append_drop, Nat.pow_zero, Nat.mul_one]
  · simp only [Option.getD_none, List.length_drop]
    omega

theorem writes_positional (e : Int) : Writes ds e (Binary64.positionalText true ds e) := by
  unfold Binary64.positionalText
  simp only [if_true]
  split
  · rename_i he
    exact writes_below_one hne hd he
  · rename_i he
    split
    · rename_i hle
      exact writes_padded hne hd hz he hle
    · rename_i hle
      exact writes_split hne hd hz he hle

theorem writes_scientific {e : Int} (he : e.natAbs < 1 <<< 31) :
    Writes ds e (Binary64.scientificText true ds e) := by
  have hlen : 0 < ds.length := List.length_pos_iff.2 hne
  refine ⟨ds.take 1, ds.drop 1, some e, 0, ?_, ?_, ?_, ?_, ?_⟩
  · obtain ⟨d, ds', rfl⟩ := List.exists_cons_of_ne_nil hne
    cases ds' <;> by_cases hn : e < 0 <;>
      simp [Binary64.scientificText, numeralChars, pointChars, powerChars, hn]
  · refine ⟨by simp [hne], fun c hc => hd c (by rwa [List.take_append_drop] at hc),
      fun h => absurd h (head?_take_ne_zero hz Nat.one_pos), ?_⟩
    rintro _ ⟨⟩
    exact he
  · simp
  · rw [List.take_append_drop, Nat.pow_zero, Nat.mul_one]
  · simp only [Option.getD_some, List.length_drop]
    omega

end Layout

/-- The digits of a number are the significant ones and zeros. -/
theorem toDigits_eq_significant (n : Nat) :
    ∃ k, Nat.toDigits 10 n = Binary64.significant n ++ List.replicate k '0' := by
  refine ⟨((Nat.toDigits 10 n).reverse.takeWhile (· = '0')).length, ?_⟩
  have hzeros : (Nat.toDigits 10 n).reverse.takeWhile (· = '0') =
      List.replicate ((Nat.toDigits 10 n).reverse.takeWhile (· = '0')).length '0' :=
    List.eq_replicate_iff.2 ⟨rfl, fun c hc => by simpa using List.mem_takeWhile_imp hc⟩
  rw [← List.reverse_replicate, ← hzeros, Binary64.significant, ← List.reverse_append,
    List.takeWhile_append_dropWhile, List.reverse_reverse]

/-- A double other than zero is read from its digits, however they are laid out. -/
theorem ofDecimal?_of_writes {d : Binary64} (h0 : d.units ≠ 0) {tie : Binary64.Tie}
    {whole fraction : List Char} {power : Option Int} {k : Nat}
    (hvalue : decimalValue (whole ++ fraction) =
      decimalValue (Binary64.significant (Binary64.shortest tie d.units).digits) * 10 ^ k)
    (hexponent : power.getD 0 - fraction.length =
      Binary64.digitCount (Binary64.shortest tie d.units).digits - 1 +
        (Binary64.shortest tie d.units).exponent + 1 -
        (Binary64.significant (Binary64.shortest tie d.units).digits).length - k) :
    Binary64.ofDecimal? d.negative (decimalValue (whole ++ fraction))
      (power.getD 0 - fraction.length) = some d := by
  have hread := Binary64.ofDecimal?_shortest tie h0
  have hn0 := (Binary64.near_shortest tie d.representable h0).digits_ne_zero d.representable h0
  generalize Binary64.shortest tie d.units = decimal at *
  obtain ⟨j, hj⟩ := toDigits_eq_significant decimal.digits
  have hdigits : decimal.digits = decimalValue (Binary64.significant decimal.digits) * 10 ^ j := by
    rw [← decimalValue_append_zeros, ← hj, decimalValue_eq, Nat.ofDigitChars_ten_toDigits]
  have hlength : Binary64.digitCount decimal.digits =
      (Binary64.significant decimal.digits).length + j := by
    rw [Binary64.digitCount, hj, List.length_append, List.length_replicate]
  have hv0 : decimalValue (Binary64.significant decimal.digits) ≠ 0 := fun hz =>
    hn0 (by rw [hdigits, hz, Nat.zero_mul])
  rw [hvalue, hexponent, Binary64.ofDecimal?_mul_pow hv0, ← hread]
  conv_rhs => rw [hdigits]
  rw [← Binary64.ofDecimal?_mul_pow hv0 _ j]
  congr 1
  omega

theorem significant_ne_nil {n : Nat} (h : n ≠ 0) : Binary64.significant n ≠ [] := by
  obtain ⟨k, hk⟩ := toDigits_eq_significant n
  intro hnil
  refine h ?_
  rw [← Nat.ofDigitChars_ten_toDigits (n := n), hk, hnil, List.nil_append,
    Nat.ofDigitChars_replicate_zero, Nat.mul_zero]

theorem head?_significant {n : Nat} (h : n ≠ 0) : (Binary64.significant n).head? ≠ some '0' := by
  obtain ⟨k, hk⟩ := toDigits_eq_significant n
  obtain ⟨d, ds, hd⟩ := List.exists_cons_of_ne_nil (significant_ne_nil h)
  intro h0
  refine h (head?_toDigits ?_)
  rw [hk, hd]
  rwa [hd] at h0

theorem isDigit_significant {n : Nat} {c : Char} (h : c ∈ Binary64.significant n) :
    c.isDigit = true := by
  obtain ⟨k, hk⟩ := toDigits_eq_significant n
  exact isDigit_toDigits (n := n) (by rw [hk]; exact List.mem_append_left _ h)

/-- Both layouts of JSON text write the significant digits. -/
theorem writes_json {n : Nat} (h : n ≠ 0) {e : Int} (he : e.natAbs < 1 <<< 31) :
    Writes (Binary64.significant n) e
      (if Binary64.Layout.json.positional e then
        Binary64.positionalText Binary64.Layout.json.pointZero (Binary64.significant n) e
      else Binary64.scientificText Binary64.Layout.json.plus (Binary64.significant n) e) := by
  split
  · exact writes_positional (significant_ne_nil h) (fun _ => isDigit_significant)
      (head?_significant h) e
  · exact writes_scientific (significant_ne_nil h) (fun _ => isDigit_significant)
      (head?_significant h) he

/-- A numeral that is not that of an integer is read as a double. -/
theorem number?_of_not_whole {negative : Bool} {digits : Nat} {e : Int} {p : Prop} [Decidable p]
    (hp : ¬ p) :
    Numeral.number? ⟨negative, digits, e, p⟩ =
      (Binary64.ofDecimal? negative digits e).map .double := by
  unfold Numeral.number? Number.ofDecimal?
  simp only [hp, decide_false]
  exact dif_neg fun h => absurd h.2.1 Bool.false_ne_true

/-- The characters are a numeral that stands for the number. -/
def Spells (cs : List Char) (n : Number) : Prop :=
  ∃ negative whole fraction power,
    cs = (if negative then ['-'] else []) ++ numeralChars whole fraction power ∧
    IsNumeral whole fraction power ∧
    Numeral.number? ⟨negative, decimalValue (whole ++ fraction), power.getD 0 - fraction.length,
      fraction = [] ∧ power = none⟩ = some n

theorem spells_double (d : Binary64) : Spells (d.text .json).toList (.double d) := by
  rw [Binary64.text, String.toList_ofList]
  by_cases h0 : d.units = 0
  · have hzero : d = .zero d.negative := by
      cases d
      cases h0
      rfl
    rw [if_pos h0]
    refine ⟨d.negative, ['0'], ['0'], none, rfl, ⟨by simp, by simp, fun _ => rfl, nofun⟩, ?_⟩
    rw [number?_of_not_whole (by simp)]
    conv_rhs => rw [hzero]
    rfl
  · rw [if_neg h0]
    obtain ⟨hlow, hhigh⟩ := Binary64.magnitude_shortest .even d.representable h0
    have hn0 := (Binary64.near_shortest .even d.representable h0).digits_ne_zero d.representable h0
    obtain ⟨whole, fraction, power, k, hcs, hnum, hp, hvalue, hexponent⟩ := writes_json hn0
      (e := Binary64.digitCount (Binary64.shortest .even d.units).digits - 1 +
        (Binary64.shortest .even d.units).exponent) (by omega)
    refine ⟨d.negative, whole, fraction, power, congrArg _ hcs, hnum, ?_⟩
    rw [number?_of_not_whole hp, ofDecimal?_of_writes h0 hvalue hexponent, Option.map_some]

theorem spells_text (n : Number) : Spells (n.text .json).toList n := by
  cases n with
  | double d => exact spells_double d
  | int i h =>
    refine ⟨i < 0, Nat.toDigits 10 i.natAbs, [], none, toList_toString_int i,
      isNumeral_toDigits _, ?_⟩
    have hvalue : decimalValue (Nat.toDigits 10 i.natAbs ++ []) = i.natAbs := by
      rw [List.append_nil, decimalValue_eq, Nat.ofDigitChars_ten_toDigits]
    rw [hvalue]
    exact ofDecimal?_int h

/-- The text of a number is read as the number. -/
theorem readNumber_text (n : Number) {rest : List Char} (hr : EndsNumber rest) (o : Nat) :
    ∃ o', readNumber ⟨(n.text .json).toList ++ rest, o⟩ = .ok (n, ⟨rest, o'⟩) := by
  obtain ⟨negative, whole, fraction, power, hcs, hnum, hn⟩ := spells_text n
  rw [hcs]
  exact readNumber_chars hnum hr hn o

theorem head_numberText (n : Number) :
    ∃ c cs, (n.text .json).toList = c :: cs ∧ (c = '-' ∨ c.isDigit = true) := by
  obtain ⟨negative, whole, fraction, power, hcs, hnum, -⟩ := spells_text n
  obtain ⟨d, ds, hd⟩ := List.exists_cons_of_ne_nil hnum.ne_nil
  rw [hcs]
  cases negative with
  | true => exact ⟨_, _, rfl, .inl rfl⟩
  | false =>
    refine ⟨d, _, by rw [numeralChars, hd]; rfl, .inr (hnum.digits d ?_)⟩
    rw [hd]
    exact List.mem_cons_self

end Registrar.Json
