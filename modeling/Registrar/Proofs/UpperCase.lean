import Registrar.Text.Case

/-!
# Upper case taken twice

`toUpper_toUpper`: the upper-case form of a text is its own upper-case form. It holds as each
character of an upper-case form is its own (`upperOf_of_mem`). For the characters that a shift maps
to, this follows from a comparison of spans (`Shift.settled`), which the kernel decides once for
each shift; the other characters are few. In the same way no character but the colon has a colon in
its upper-case form (`colon_of_mem_upperOf`).
-/

namespace Registrar.Text

open Case

/-! ## Spans without a common code point -/

namespace Span

/-- The span of one code point. -/
def single (n : Nat) : Span := ⟨n, n, 1⟩

/-- Whether all code points of the span are even, or all are odd. -/
def hasParity (s : Span) : Bool := s.step % 2 == 0 || s.first == s.last

/-- Whether the spans are told apart by their ends, or by the parity of their code points. -/
def apart (a b : Span) : Bool :=
  -- on `Nat.blt` the kernel decides fast
  Nat.blt a.last b.first || Nat.blt b.last a.first ||
    (a.hasParity && b.hasParity && (a.first + b.first) % 2 == 1)

theorem holds_iff {s : Span} {n : Nat} :
    s.holds n = true ↔ s.first ≤ n ∧ n ≤ s.last ∧ (n - s.first) % s.step = 0 := by
  simp [holds, and_assoc]

theorem holds_single (n : Nat) : (single n).holds n = true :=
  holds_iff.2 ⟨Nat.le_refl n, Nat.le_refl n, Nat.mod_one _⟩

theorem mod_two_eq {s : Span} (h : s.hasParity = true) {n : Nat} (hn : s.holds n = true) :
    n % 2 = s.first % 2 := by
  obtain ⟨hfirst, hlast, hstep⟩ := holds_iff.1 hn
  simp only [hasParity, Bool.or_eq_true, beq_iff_eq] at h
  rcases h with h | h
  · have h2 : 2 ∣ n - s.first :=
      Nat.dvd_trans (Nat.dvd_of_mod_eq_zero h) (Nat.dvd_of_mod_eq_zero hstep)
    omega
  · omega

theorem not_holds_of_apart {a b : Span} (h : a.apart b = true) {n : Nat} (hn : a.holds n = true) :
    b.holds n = false := by
  rw [← Bool.not_eq_true]
  intro hb
  obtain ⟨ha1, ha2, -⟩ := holds_iff.1 hn
  obtain ⟨hb1, hb2, -⟩ := holds_iff.1 hb
  simp only [apart, Bool.or_eq_true, Bool.and_eq_true, Nat.blt_eq, beq_iff_eq] at h
  rcases h with (h | h) | ⟨⟨hpa, hpb⟩, hsum⟩
  · omega
  · omega
  · have h1 := mod_two_eq hpa hn
    have h2 := mod_two_eq hpb hb
    omega

end Span

/-! ## What a shift maps to -/

/-- Whether the character is its own upper-case form. -/
def isUpperForm (c : Char) : Bool := upperOf c == [c]

namespace Case.Shift

/-- The code points that the shift maps to. -/
def image (s : Shift) : Span :=
  ⟨((s.first : Int) + s.offset).toNat, ((s.last : Int) + s.offset).toNat, s.step⟩

theorem holds_image {s : Shift} (h0 : 0 ≤ (s.first : Int) + s.offset) {n : Nat}
    (hn : s.holds n = true) : s.image.holds ((n : Int) + s.offset).toNat = true := by
  obtain ⟨hfirst, hlast, hstep⟩ := Span.holds_iff.1 hn
  have hdiff : ((n : Int) + s.offset).toNat - ((s.first : Int) + s.offset).toNat = n - s.first := by
    omega
  refine Span.holds_iff.2 ⟨?_, ?_, ?_⟩
  · show ((s.first : Int) + s.offset).toNat ≤ _
    omega
  · show _ ≤ ((s.last : Int) + s.offset).toNat
    omega
  · show (_ - ((s.first : Int) + s.offset).toNat) % s.step = 0
    rw [hdiff, hstep]

/-- Whether no upper-case mapping moves the characters that the shift maps to, or there is one such
character alone and it is its own upper-case form. -/
def settled (s : Shift) : Bool :=
  decide (0 ≤ (s.first : Int) + s.offset) &&
    ((decide (0x80 ≤ s.image.first) && upperExpansions.all (fun e => s.image.apart (.single e.1)) &&
        upperShifts.all fun t => s.image.apart t.toSpan) ||
      (s.image.first == s.image.last && isUpperForm (Char.ofNat s.image.first)))

theorem all_settled : upperShifts.all settled = true := by decide +kernel

end Case.Shift

/-! ## Characters -/

theorem upperOf_of_unmoved {c : Char} (h : 0x80 ≤ c.toNat)
    (he : ∀ e ∈ upperExpansions, e.1 ≠ c.toNat)
    (hs : ∀ s ∈ upperShifts, s.holds c.toNat = false) : upperOf c = [c] := by
  have hlookup : upperExpansions.lookup c.toNat = none :=
    List.lookup_eq_none_iff.2 fun e hm => bne_iff_ne.2 (he e hm).symm
  have hshift : shifted upperShifts c = none := by
    unfold shifted
    rw [List.find?_eq_none.2 fun s hm => by rw [hs s hm]; exact Bool.false_ne_true]
    rfl
  rw [upperOf, if_neg (Nat.not_lt.2 h), hlookup, hshift]
  rfl

theorem toNat_ofNat (n : Nat) : (Char.ofNat n).toNat = n ∨ Char.ofNat n = '\x00' := by
  by_cases h : n.isValidChar
  · have hn : Char.ofNat n = Char.ofNatAux n h := dif_pos h
    exact .inl (by rw [hn]; rfl)
  · exact .inr (dif_neg h)

theorem upperOf_shifted {s : Shift} (h : s.settled = true) {n : Nat} (hn : s.holds n = true) :
    upperOf (Char.ofNat ((n : Int) + s.offset).toNat) =
      [Char.ofNat ((n : Int) + s.offset).toNat] := by
  simp only [Shift.settled, isUpperForm, Bool.and_eq_true, Bool.or_eq_true, decide_eq_true_eq,
    beq_iff_eq, List.all_eq_true] at h
  obtain ⟨h0, h⟩ := h
  have himage := Shift.holds_image h0 hn
  obtain ⟨hfirst, hlast, -⟩ := Span.holds_iff.1 himage
  rcases h with ⟨⟨hlow, hexp⟩, hspan⟩ | ⟨hone, hfix⟩
  · rcases toNat_ofNat ((n : Int) + s.offset).toNat with hto | hto
    · refine upperOf_of_unmoved (by omega) (fun e he hen => ?_) fun t ht => ?_
      · rw [hto] at hen
        have hno := Span.not_holds_of_apart (hexp e he) himage
        rw [← hen, Span.holds_single] at hno
        cases hno
      · rw [hto]
        exact Span.not_holds_of_apart (hspan t ht) himage
    · rw [hto]
      decide
  · have heq : ((n : Int) + s.offset).toNat = s.image.first := by omega
    rw [heq]
    exact hfix

theorem isUpperForm_of_ascii :
    ((List.range 0x80).all fun n => (upperOf (Char.ofNat n)).all isUpperForm) = true := by
  decide +kernel

theorem isUpperForm_of_expansion : (upperExpansions.all fun e => e.2.all isUpperForm) = true := by
  decide +kernel

/-- Where the upper-case form of a character comes from. -/
theorem upperOf_cases (c : Char) :
    c.toNat < 0x80 ∨ (∃ e ∈ upperExpansions, upperOf c = e.2) ∨
      (∃ s ∈ upperShifts, s.holds c.toNat = true ∧
        upperOf c = [Char.ofNat ((c.toNat : Int) + s.offset).toNat]) ∨
      upperOf c = [c] := by
  by_cases hc : c.toNat < 0x80
  · exact .inl hc
  · rw [upperOf, if_neg hc]
    cases he : upperExpansions.lookup c.toNat with
    | some cs =>
      obtain ⟨l, l', hl, -⟩ := List.lookup_eq_some_iff.1 he
      exact .inr (.inl ⟨(c.toNat, cs), by simp [hl], rfl⟩)
    | none =>
      unfold shifted
      cases hs : upperShifts.find? fun s => s.holds c.toNat with
      | some s =>
        have hholds : s.holds c.toNat = true := by simpa using List.find?_some hs
        exact .inr (.inr (.inl ⟨s, List.mem_of_find?_eq_some hs, hholds, rfl⟩))
      | none => exact .inr (.inr (.inr rfl))

/-- A character of an upper-case form is its own upper-case form. -/
theorem upperOf_of_mem {c d : Char} (h : d ∈ upperOf c) : upperOf d = [d] := by
  rcases upperOf_cases c with hc | ⟨e, he, hu⟩ | ⟨s, hs, hn, hu⟩ | hu
  · rw [← Char.ofNat_toNat c] at h
    have hall := List.all_eq_true.1 isUpperForm_of_ascii c.toNat (List.mem_range.2 hc)
    exact beq_iff_eq.1 (List.all_eq_true.1 hall d h)
  · rw [hu] at h
    have hall := List.all_eq_true.1 isUpperForm_of_expansion e he
    exact beq_iff_eq.1 (List.all_eq_true.1 hall d h)
  · rw [hu, List.mem_singleton] at h
    rw [h]
    exact upperOf_shifted (List.all_eq_true.1 Shift.all_settled s hs) hn
  · rw [hu, List.mem_singleton] at h
    rw [h]
    exact hu

theorem colon_of_mem_upperOf_ascii :
    ((List.range 0x80).all fun n =>
      !(upperOf (Char.ofNat n)).contains ':' || Char.ofNat n == ':') = true := by
  decide +kernel

theorem colon_notMem_expansion : ∀ e ∈ upperExpansions, ':' ∉ e.2 := by decide +kernel

theorem colon_not_in_image : (upperShifts.all fun s => !s.image.holds ':'.toNat) = true := by
  decide +kernel

/-- No character but the colon has a colon in its upper-case form. -/
theorem colon_of_mem_upperOf {c : Char} (h : ':' ∈ upperOf c) : c = ':' := by
  rcases upperOf_cases c with hc | ⟨e, he, hu⟩ | ⟨s, hs, hn, hu⟩ | hu
  · have hall := List.all_eq_true.1 colon_of_mem_upperOf_ascii c.toNat (List.mem_range.2 hc)
    rw [Char.ofNat_toNat] at hall
    simpa [h] using hall
  · rw [hu] at h
    exact absurd h (colon_notMem_expansion e he)
  · rw [hu, List.mem_singleton] at h
    have hset := List.all_eq_true.1 Shift.all_settled s hs
    simp only [Shift.settled, Bool.and_eq_true, decide_eq_true_eq] at hset
    have himage := Shift.holds_image hset.1 hn
    have hno := List.all_eq_true.1 colon_not_in_image s hs
    rcases toNat_ofNat ((c.toNat : Int) + s.offset).toNat with hto | hto
    · rw [← hto, ← h] at himage
      rw [himage] at hno
      cases hno
    · rw [hto] at h
      exact absurd h (by decide)
  · rw [hu, List.mem_singleton] at h
    exact h.symm

/-! ## Texts -/

theorem colon_mem_of_toUpper {s : String} (h : ':' ∈ (toUpper s).toList) : ':' ∈ s.toList := by
  rw [toUpper, String.toList_ofList] at h
  obtain ⟨c, hc, hm⟩ := List.mem_flatMap.1 h
  exact colon_of_mem_upperOf hm ▸ hc

theorem flatMap_upperOf {cs : List Char} (h : ∀ c ∈ cs, upperOf c = [c]) :
    cs.flatMap upperOf = cs := by
  induction cs with
  | nil => rfl
  | cons c cs ih =>
    obtain ⟨hc, hcs⟩ := List.forall_mem_cons.1 h
    rw [List.flatMap_cons, hc, ih hcs]
    rfl

theorem toUpper_toUpper (s : String) : toUpper (toUpper s) = toUpper s := by
  unfold toUpper
  rw [String.toList_ofList, flatMap_upperOf fun d hd => ?_]
  obtain ⟨c, -, hd⟩ := List.mem_flatMap.1 hd
  exact upperOf_of_mem hd

end Registrar.Text
