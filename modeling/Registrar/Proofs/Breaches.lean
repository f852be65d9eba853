import Registrar.Proofs.Nearest
import Registrar.Violation

/-!
# What violates a constraint

`Offends kind value argument message` lists the ways in which a value breaks a constraint of a kind,
each with the message in general words. What it does not list is allowed, such as a value of a type
that the kind says nothing of, or an argument that makes no sense. `Constraint.Violates` adds the
tag and the own message of a constraint, and `Violations` goes through the constraints of a field.
Checking a value finds exactly these violations (`violations_exact`).
-/

namespace Registrar

open Text Binary64

/-! ## Numbers as arguments -/

namespace Number

variable {x b : Number} {t : Nat}

/-- The one number is below the other, after both are rounded to doubles. -/
def Below (x b : Number) : Prop :=
  ∃ d e, Rounds x.signed d ∧ Rounds b.signed e ∧ d.signed < e.signed

/-- The number, rounded to a double, is not negative and has this integer part. -/
def Truncates (b : Number) (t : Nat) : Prop :=
  ∃ d, Rounds b.signed d ∧ (t : Int) * one ≤ d.signed ∧ d.signed < (t + 1 : Nat) * (one : Int)

theorem lt_toDouble_iff_below : x.toDouble.lt b.toDouble = true ↔ x.Below b := by
  rw [lt, decide_eq_true_eq]
  constructor
  · exact fun h => ⟨_, _, x.rounds_toDouble, b.rounds_toDouble, h⟩
  · rintro ⟨d, e, hd, he, h⟩
    rwa [x.rounds_toDouble.signed_eq hd, b.rounds_toDouble.signed_eq he]

theorem floorAbs_eq_iff {d : Binary64} : 0 ≤ d.signed ∧ d.floorAbs = t ↔
    (t : Int) * one ≤ d.signed ∧ d.signed < (t + 1 : Nat) * (one : Int) := by
  have hlow : t ≤ d.floorAbs ↔ t * one ≤ d.units := Nat.le_div_iff_mul_le pos_one
  have hhigh : d.floorAbs < t + 1 ↔ d.units < (t + 1) * one := Nat.div_lt_iff_lt_mul pos_one
  have hfloor : d.floorAbs = t ↔ t * one ≤ d.units ∧ d.units < (t + 1) * one := by
    rw [← hlow, ← hhigh]
    omega
  by_cases h : 0 ≤ d.signed
  · have hunits : d.signed = d.units := by
      have := d.signed_cases
      omega
    rw [hfloor, and_iff_right h, hunits]
    exact_mod_cast Iff.rfl
  · have hpos : (0 : Int) ≤ t * one := Int.mul_nonneg (Int.natCast_nonneg _) (Int.natCast_nonneg _)
    exact iff_of_false (fun hd => h hd.1) fun hd => h (hpos.trans hd.1)

theorem truncates_iff : b.Truncates t ↔ 0 ≤ b.toDouble.signed ∧ b.toDouble.floorAbs = t := by
  rw [floorAbs_eq_iff]
  constructor
  · rintro ⟨d, hd, h⟩
    rwa [b.rounds_toDouble.signed_eq hd]
  · exact fun h => ⟨_, b.rounds_toDouble, h⟩

end Number

namespace Value

variable {v : Value}

theorem text?_eq_some_iff {s : String} : v.text? = some s ↔ v = .string s := by
  cases v <;> simp [text?]

theorem items?_eq_some_iff {items : List Value} : v.items? = some items ↔ v = .array items := by
  cases v <;> simp [items?]

/-- A number sets a length unless it is negative. -/
theorem length?_iff_truncates {k : Nat} : v.length? = some k ↔
    ∃ b t, v = .number b ∧ b.Truncates t ∧ min t lengthLimit = k := by
  rw [length?_eq_some_iff]
  cases v with
  | number b => simp [toDouble?, Number.truncates_iff, and_assoc]
  | _ => simp [toDouble?]

theorem isVacant_iff : v.isVacant = true ↔
    v = .null ∨ (∃ s, v = .string s ∧ ∀ c ∈ s.toList, isBlank c = true) ∨ v = .array [] := by
  cases v <;> simp [isVacant, isBlankText]

end Value

/-! ## Offences -/

/-- The value breaks a constraint of the kind with the argument, and the general message says so.
The length that a number asks for is its integer part; one that no text reaches counts as
`Value.lengthLimit`. -/
inductive Offends : ConstraintKind → (value argument : Value) → (message : String) → Prop
  | min {x b : Number} (h : x.Below b) :
    Offends .min (.number x) (.number b) s!"must be at least {Json.compact (.number b)}"
  | max {x b : Number} (h : b.Below x) :
    Offends .max (.number x) (.number b) s!"must be at most {Json.compact (.number b)}"
  | minLength {s : String} {b : Number} {t : Nat} (ht : b.Truncates t)
    (h : s.length < Min.min t Value.lengthLimit) :
    Offends .minLength (.string s) (.number b)
      s!"length must be at least {Min.min t Value.lengthLimit}"
  | maxLength {s : String} {b : Number} {t : Nat} (ht : b.Truncates t)
    (h : Min.min t Value.lengthLimit < s.length) :
    Offends .maxLength (.string s) (.number b)
      s!"length must be at most {Min.min t Value.lengthLimit}"
  | pattern {s p : String} {re : Pattern} (hp : Pattern.compile? p = some re)
    (h : re.isMatch s = false) :
    Offends .pattern (.string s) (.string p) ("must match pattern " ++ p)
  | null {argument : Value} : Offends .notEmpty .null argument "must not be empty"
  | blank {s : String} {argument : Value} (h : ∀ c ∈ s.toList, isBlank c = true) :
    Offends .notEmpty (.string s) argument "must not be empty"
  | noItem {argument : Value} : Offends .notEmpty (.array []) argument "must not be empty"
  | oneOf {value : Value} {options : List Value}
    (h : ∀ option ∈ options, option.canonicalText ≠ value.canonicalText) :
    Offends .oneOf value (.array options)
      ("must be one of [" ++ ", ".intercalate (options.map Value.canonicalText) ++ "]")

namespace Constraint

variable {value argument : Value} {message : String}

theorem belowMin_iff : belowMin value argument = true ↔
    ∃ x b, value = .number x ∧ argument = .number b ∧ x.Below b := by
  cases value <;> cases argument <;>
    simp [belowMin, Value.toDouble?, Number.lt_toDouble_iff_below]

theorem aboveMax_iff : aboveMax value argument = true ↔
    ∃ x b, value = .number x ∧ argument = .number b ∧ b.Below x := by
  cases value <;> cases argument <;>
    simp [aboveMax, Value.toDouble?, Number.lt_toDouble_iff_below]

theorem lengths?_iff {n k : Nat} : lengths? value argument = some (n, k) ↔
    ∃ s b t, value = .string s ∧ argument = .number b ∧ b.Truncates t ∧ s.length = n ∧
      min t Value.lengthLimit = k := by
  simp only [lengths?, Option.bind_eq_bind, Option.bind_eq_some_iff, Option.pure_def,
    Option.some.injEq, Prod.mk.injEq, Value.text?_eq_some_iff, Value.length?_iff_truncates]
  constructor
  · rintro ⟨s, hs, _, ⟨b, t, hb, ht, rfl⟩, hn, hk⟩
    exact ⟨s, b, t, hs, hb, ht, hn, hk⟩
  · rintro ⟨s, b, t, hs, hb, ht, hn, hk⟩
    exact ⟨s, hs, _, ⟨b, t, hb, ht, rfl⟩, hn, hk⟩

theorem misses_iff : misses value argument = true ↔
    ∃ s p re, value = .string s ∧ argument = .string p ∧ Pattern.compile? p = some re ∧
      re.isMatch s = false := by
  cases value with
  | string s =>
    cases argument with
    | string p => cases h : Pattern.compile? p <;> simp [misses, Value.text?, h]
    | _ => simp [misses, Value.text?]
  | _ => simp [misses, Value.text?]

/-- A breach is an offence, and the message is what that says. -/
theorem breach?_eq_some_iff {kind : ConstraintKind} :
    breach? kind value argument = some message ↔ Offends kind value argument message := by
  constructor
  · intro h
    cases kind with
    | min =>
      obtain ⟨hb, hm⟩ := Option.ite_none_right_eq_some.1 h
      obtain ⟨x, b, rfl, rfl, hlt⟩ := belowMin_iff.1 hb
      exact Option.some.inj hm ▸ .min hlt
    | max =>
      obtain ⟨hb, hm⟩ := Option.ite_none_right_eq_some.1 h
      obtain ⟨x, b, rfl, rfl, hlt⟩ := aboveMax_iff.1 hb
      exact Option.some.inj hm ▸ .max hlt
    | minLength =>
      obtain ⟨⟨n, k⟩, hl, h⟩ := Option.bind_eq_some_iff.1 h
      obtain ⟨hlt, hm⟩ := Option.ite_none_right_eq_some.1 h
      obtain ⟨s, b, t, rfl, rfl, ht, rfl, rfl⟩ := lengths?_iff.1 hl
      exact Option.some.inj hm ▸ .minLength ht hlt
    | maxLength =>
      obtain ⟨⟨n, k⟩, hl, h⟩ := Option.bind_eq_some_iff.1 h
      obtain ⟨hlt, hm⟩ := Option.ite_none_right_eq_some.1 h
      obtain ⟨s, b, t, rfl, rfl, ht, rfl, rfl⟩ := lengths?_iff.1 hl
      exact Option.some.inj hm ▸ .maxLength ht hlt
    | pattern =>
      obtain ⟨hmiss, hm⟩ := Option.ite_none_right_eq_some.1 h
      obtain ⟨s, p, re, rfl, rfl, hp, hre⟩ := misses_iff.1 hmiss
      exact Option.some.inj hm ▸ .pattern hp hre
    | notEmpty =>
      obtain ⟨hv, hm⟩ := Option.ite_none_right_eq_some.1 h
      obtain rfl := Option.some.inj hm
      obtain rfl | ⟨s, rfl, hs⟩ | rfl := Value.isVacant_iff.1 hv
      · exact .null
      · exact .blank hs
      · exact .noItem
    | oneOf =>
      obtain ⟨options, ho, h⟩ := Option.bind_eq_some_iff.1 h
      obtain ⟨hne, hm⟩ := Option.ite_none_left_eq_some.1 h
      obtain rfl := Value.items?_eq_some_iff.1 ho
      refine Option.some.inj hm ▸ .oneOf fun o hmem he => hne ?_
      exact List.contains_iff_mem.2 (List.mem_map.2 ⟨o, hmem, he⟩)
    | refExists => cases h
  · intro h
    cases h with
    | min h => exact if_pos (belowMin_iff.2 ⟨_, _, rfl, rfl, h⟩)
    | max h => exact if_pos (aboveMax_iff.2 ⟨_, _, rfl, rfl, h⟩)
    | minLength ht h =>
      exact Option.bind_eq_some_iff.2
        ⟨(_, _), lengths?_iff.2 ⟨_, _, _, rfl, rfl, ht, rfl, rfl⟩, if_pos h⟩
    | maxLength ht h =>
      exact Option.bind_eq_some_iff.2
        ⟨(_, _), lengths?_iff.2 ⟨_, _, _, rfl, rfl, ht, rfl, rfl⟩, if_pos h⟩
    | pattern hp h => exact if_pos (misses_iff.2 ⟨_, _, _, rfl, rfl, hp, h⟩)
    | null => rfl
    | blank h => exact if_pos (Value.isVacant_iff.2 (.inr (.inl ⟨_, rfl, h⟩)))
    | noItem => rfl
    | oneOf h =>
      refine Option.bind_eq_some_iff.2 ⟨_, rfl, if_neg fun hc => ?_⟩
      obtain ⟨o, hmem, he⟩ := List.mem_map.1 (List.contains_iff_mem.1 hc)
      exact h o hmem he

/-! ## Violations -/

theorem kind?_eq_some_iff {c : Constraint} {kind : ConstraintKind} :
    c.kind? = some kind ↔ trim c.type = kind.tag := by
  constructor
  · intro h
    have htag := List.find?_some h
    exact (of_decide_eq_true htag).symm
  · intro h
    rw [kind?, ConstraintKind.ofTag?, h]
    cases kind <;> decide +kernel

/-- The tag, blanks around it aside, names a kind, and the value offends against that. A message of
the constraint's own stands in for the general one. -/
inductive Violates (c : Constraint) (field : String) (value : Value) : Violation → Prop
  | own {kind : ConstraintKind} {general own : String} (hk : trim c.type = kind.tag)
    (h : Offends kind value c.value general) (hm : c.message = some own) :
    c.Violates field value ⟨field, kind, own⟩
  | general {kind : ConstraintKind} {general : String} (hk : trim c.type = kind.tag)
    (h : Offends kind value c.value general) (hm : c.message = none) :
    c.Violates field value ⟨field, kind, general⟩

theorem violation?_eq_some_iff {c : Constraint} {field : String} {v : Violation} :
    c.violation? field value = some v ↔ c.Violates field value v := by
  constructor
  · intro h
    obtain ⟨kind, hk, h⟩ := Option.bind_eq_some_iff.1 h
    obtain ⟨general, hb, hv⟩ := Option.bind_eq_some_iff.1 h
    obtain rfl := Option.some.inj hv
    rw [kind?_eq_some_iff] at hk
    rw [breach?_eq_some_iff] at hb
    cases hm : c.message with
    | some own => exact .own hk hb hm
    | none => exact .general hk hb hm
  · intro h
    cases h with
    | own hk h hm =>
      rw [violation?_of_kind (kind?_eq_some_iff.2 hk), breach?_eq_some_iff.2 h, hm]
      rfl
    | general hk h hm =>
      rw [violation?_of_kind (kind?_eq_some_iff.2 hk), breach?_eq_some_iff.2 h, hm]
      rfl

end Constraint

/-- What a value violates of a list of constraints, one after the other. -/
inductive Violations (field : String) (value : Value) : List Constraint → List Violation → Prop
  | nil : Violations field value [] []
  | kept {c : Constraint} {cs : List Constraint} {vs : List Violation}
    (h : ∀ v, ¬ c.Violates field value v) (hs : Violations field value cs vs) :
    Violations field value (c :: cs) vs
  | violated {c : Constraint} {v : Violation} {cs : List Constraint} {vs : List Violation}
    (h : c.Violates field value v) (hs : Violations field value cs vs) :
    Violations field value (c :: cs) (v :: vs)

theorem violations_filterMap (field : String) (value : Value) (cs : List Constraint) :
    Violations field value cs (cs.filterMap (·.violation? field value)) := by
  induction cs with
  | nil => exact .nil
  | cons c cs ih =>
    cases h : c.violation? field value with
    | some v =>
      simp only [List.filterMap_cons, h]
      exact .violated (Constraint.violation?_eq_some_iff.1 h) ih
    | none =>
      simp only [List.filterMap_cons, h]
      refine .kept (fun v hv => ?_) ih
      simp [Constraint.violation?_eq_some_iff.2 hv] at h

theorem Violations.eq_filterMap {field : String} {value : Value} {cs : List Constraint}
    {vs : List Violation} (h : Violations field value cs vs) :
    cs.filterMap (·.violation? field value) = vs := by
  induction h with
  | nil => rfl
  | kept h _ ih =>
    have hnone := Option.eq_none_iff_forall_ne_some.2 fun v hv =>
      h v (Constraint.violation?_eq_some_iff.1 hv)
    simp only [List.filterMap_cons, hnone, ih]
  | violated h _ ih =>
    simp only [List.filterMap_cons, Constraint.violation?_eq_some_iff.2 h, ih]

/-- A constraint is found violated exactly if the value violates it, and the violations found of a
field are those of its constraints, in the order of their declaration. -/
theorem violations_exact (field : String) (value : Value) :
    (∀ (c : Constraint) (v : Violation),
      c.violation? field value = some v ↔ c.Violates field value v) ∧
    ∀ (f : Field) (vs : List Violation),
      f.violations field value = vs ↔ Violations field value f.constraints vs := by
  refine ⟨fun c v => Constraint.violation?_eq_some_iff, fun f vs => ⟨?_, ?_⟩⟩
  · rintro rfl
    exact violations_filterMap field value f.constraints
  · exact Violations.eq_filterMap

end Registrar
