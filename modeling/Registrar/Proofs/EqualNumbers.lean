import Registrar.Proofs.FieldRules
import Registrar.Proofs.Nearest
import Mathlib.Data.List.Basic

/-!
# Two spellings of a number

An integer and the double with the same value are different values: `3` and `3.0`. They are the
same number (`Number.signed`), and a constraint judges them alike unless it is a list of options,
which goes by how they are printed (`Constraint.Separates`). A default is as good in the one
spelling as in the other unless its field has such a list (`equal_numbers_judged_alike`).
-/

namespace Registrar

namespace Number

open Binary64

variable {x y : Number}

theorem isIntegral_iff : x.isIntegral = true ↔ (one : Int) ∣ x.signed := by
  cases x with
  | int i h => simp [isIntegral, signed]
  | double d =>
    rw [isIntegral, Binary64.isIntegral, beq_iff_eq, ← Nat.dvd_iff_mod_eq_zero, signed,
      Int.natCast_dvd, natAbs_signed]

theorem isIntegral_congr (h : x.signed = y.signed) : x.isIntegral = y.isIntegral := by
  rw [Bool.eq_iff_iff, isIntegral_iff, isIntegral_iff, h]

theorem signed_toDouble_congr (h : x.signed = y.signed) :
    x.toDouble.signed = y.toDouble.signed :=
  x.rounds_toDouble.signed_eq (h ▸ y.rounds_toDouble)

end Number

/-! ## Constraints -/

namespace Constraint

variable {c : Constraint} {field : String} {v w : Value} {x y : Number}

/-- The constraint is a list of options that holds the text of exactly one of the two values. -/
def Separates (c : Constraint) (v w : Value) : Prop :=
  c.kind? = some .oneOf ∧ ∃ options, c.value = .array options ∧
    ¬ (v.canonicalText ∈ options.map Value.canonicalText ↔
      w.canonicalText ∈ options.map Value.canonicalText)

theorem breach?_oneOf_array (v : Value) (options : List Value) :
    breach? .oneOf v (.array options) =
      let texts := options.map Value.canonicalText
      if v.canonicalText ∈ texts then none
      else some ("must be one of [" ++ ", ".intercalate texts ++ "]") := by
  simp [breach?, Value.items?]

theorem breach?_oneOf_of_items? {argument : Value} (h : argument.items? = none) (v : Value) :
    breach? .oneOf v argument = none := by
  simp [breach?, h]

theorem breach?_oneOf_congr {argument : Value}
    (h : ∀ options, argument = .array options →
      (v.canonicalText ∈ options.map Value.canonicalText ↔
        w.canonicalText ∈ options.map Value.canonicalText)) :
    breach? .oneOf v argument = breach? .oneOf w argument := by
  cases argument with
  | array options => simp only [breach?_oneOf_array, h options rfl]
  | null | bool | number | string | object =>
    rw [breach?_oneOf_of_items? rfl, breach?_oneOf_of_items? rfl]

theorem breach?_congr (h : x.signed = y.signed) {kind : ConstraintKind} (hk : kind ≠ .oneOf)
    (argument : Value) :
    breach? kind (.number x) argument = breach? kind (.number y) argument := by
  have hd := Number.signed_toDouble_congr h
  cases kind with
  | min =>
    have hbelow : belowMin (.number x) argument = belowMin (.number y) argument := by
      cases argument <;> simp [belowMin, Value.toDouble?, Binary64.lt, hd]
    simp only [breach?, hbelow]
  | max =>
    have habove : aboveMax (.number x) argument = aboveMax (.number y) argument := by
      cases argument <;> simp [aboveMax, Value.toDouble?, Binary64.lt, hd]
    simp only [breach?, habove]
  | oneOf => exact absurd rfl hk
  | minLength | maxLength | pattern | notEmpty | refExists => rfl

theorem violation?_congr (h : x.signed = y.signed) (hs : ¬ c.Separates (.number x) (.number y)) :
    c.violation? field (.number x) = c.violation? field (.number y) := by
  cases hk : c.kind? with
  | none => simp [violation?, hk]
  | some kind =>
    rw [violation?_of_kind hk, violation?_of_kind hk]
    by_cases ho : kind = .oneOf
    · subst ho
      rw [breach?_oneOf_congr fun options ho => not_not.1 fun hne => hs ⟨hk, options, ho, hne⟩]
    · rw [breach?_congr h ho]

theorem Separates.symm (h : c.Separates v w) : c.Separates w v := by
  obtain ⟨hk, options, ho, hne⟩ := h
  exact ⟨hk, options, ho, fun he => hne he.symm⟩

/-- A list of options is broken by the values whose text is not among those of the options. -/
theorem isSome_violation?_iff {options : List Value} (hk : c.kind? = some .oneOf)
    (ho : c.value = .array options) : (c.violation? field v).isSome = true ↔
      v.canonicalText ∉ options.map Value.canonicalText := by
  rw [violation?_of_kind hk, ho, breach?_oneOf_array, Option.isSome_map]
  dsimp only
  split <;> simp_all

/-- A list of options that separates two values is broken by one of them and not by the other. -/
theorem Separates.isSome_iff (h : c.Separates v w) :
    (c.violation? field v).isSome = true ↔ c.violation? field w = none := by
  obtain ⟨hk, options, ho, hne⟩ := h
  rw [← Option.not_isSome_iff_eq_none, isSome_violation?_iff hk ho, isSome_violation?_iff hk ho,
    not_not]
  exact not_iff.1 hne

end Constraint

/-! ## Defaults -/

namespace Field

variable {f : Field} {name : String} {x y : Number}

theorem problems_eq_nil_iff : f.problems name = [] ↔ f.WellFormed name := by
  simp only [wellFormed_iff, ← mem_problems_iff, List.eq_nil_iff_forall_not_mem]

theorem violations_congr (h : x.signed = y.signed)
    (hs : ∀ c ∈ f.constraints, ¬ c.Separates (.number x) (.number y)) :
    f.violations name (.number x) = f.violations name (.number y) :=
  List.filterMap_congr fun c hc => Constraint.violation?_congr h (hs c hc)

theorem carries_respelled {type : FieldType} (h : x.signed = y.signed)
    (hc : type.Carries (.number x)) : type.Carries (.number y) := by
  cases type with
  | int => exact (Number.isIntegral_congr h).symm.trans hc
  | float => exact ⟨y, rfl⟩
  | timestamp | duration | json | bytes | ref => trivial
  | _ => simp [FieldType.Carries] at hc

theorem Assignable.respelled {g : Field} {type : FieldType} (h : x.signed = y.signed)
    (ha : f.Assignable type (.number x)) : g.Assignable type (.number y) := by
  refine ⟨carries_respelled h ha.carried, fun he => ?_, fun hu => ?_⟩
  · obtain ⟨s, -, hs⟩ := ha.member he
    cases hs
  · obtain ⟨s, hs, -⟩ := ha.uuid hu
    cases hs

/-- A field stays well formed if its default is spelled in another way. -/
theorem WellFormed.respelled (h : x.signed = y.signed)
    (hs : ∀ c ∈ f.constraints, ¬ c.Separates (.number x) (.number y))
    (hf : { f with default := some (.number x) }.WellFormed name) :
    { f with default := some (.number y) }.WellFormed name := by
  obtain ⟨type, ht, hsuits⟩ := hf.typed
  obtain ⟨hknown, hrange, hlengths⟩ := hf.sound
  refine ⟨hf.named, ⟨type, ht, hsuits.values, hsuits.target, ?_⟩, ⟨hknown, hrange, hlengths⟩, ?_⟩
  · rintro v ⟨⟩
    exact (hsuits.default _ rfl).respelled h
  · rintro v ⟨⟩
    exact (violations_congr h hs).symm.trans (hf.obeyed _ rfl)

end Field

/-! ## Equal numbers -/

/-- Two spellings of a number are judged alike by every constraint that does not separate them. One
that does is a list of options, and it is broken by the one spelling whose text the list does not
hold. Where no constraint of a field separates the two, the one is accepted as its default if and
only if the other is. -/
theorem equal_numbers_judged_alike {x y : Number} (h : x.signed = y.signed) :
    (∀ (c : Constraint) (field : String),
      (¬ c.Separates (.number x) (.number y) →
        c.violation? field (.number x) = c.violation? field (.number y)) ∧
      (c.Separates (.number x) (.number y) →
        ((c.violation? field (.number x)).isSome = true ↔
          c.violation? field (.number y) = none) ∧
        ∃ options, c.value = .array options ∧ ∀ v,
          ((c.violation? field v).isSome = true ↔
            v.canonicalText ∉ options.map Value.canonicalText))) ∧
    ∀ (f : Field) (name : String),
      (∀ c ∈ f.constraints, ¬ c.Separates (.number x) (.number y)) →
        ({ f with default := some (.number x) }.problems name = [] ↔
          { f with default := some (.number y) }.problems name = []) := by
  refine ⟨fun c field => ⟨Constraint.violation?_congr h, fun hs => ⟨hs.isSome_iff, ?_⟩⟩,
    fun f name hs => ?_⟩
  · obtain ⟨hk, options, ho, -⟩ := hs
    exact ⟨options, ho, fun v => Constraint.isSome_violation?_iff hk ho⟩
  · have hs' : ∀ c ∈ f.constraints, ¬ c.Separates (.number y) (.number x) :=
      fun c hc hsep => hs c hc hsep.symm
    rw [Field.problems_eq_nil_iff, Field.problems_eq_nil_iff]
    exact ⟨.respelled h hs, .respelled h.symm hs'⟩

/-- Three as an integer. -/
def wholeThree : Number := .int 3 (by decide)

/-- Three as a double. -/
def pointedThree : Number := .double wholeThree.toDouble

/-- A field of whole numbers from two on, of which there are three as options. -/
def scoreField : Field where
  type := "int"
  constraints := [
    { type := "min", value := .number (.int 2 (by decide)) },
    { type := "one_of", value := .array [.string "3", .string "3.0", .string "4"] }]

/-- A list of options that holds three as an integer. -/
def wholeOption : Constraint where
  type := "one_of"
  value := .array [.number wholeThree]

/-- A default of three is accepted in either spelling where the options have both, and a list of
options that holds the integer is broken by the double. -/
theorem pointed_three_accepted :
    wholeThree.signed = pointedThree.signed ∧
    (∀ c ∈ scoreField.constraints, ¬ c.Separates (.number wholeThree) (.number pointedThree)) ∧
    ({ scoreField with default := some (.number wholeThree) }).problems "score" = [] ∧
    ({ scoreField with default := some (.number pointedThree) }).problems "score" = [] ∧
    wholeOption.Separates (.number wholeThree) (.number pointedThree) ∧
    (wholeOption.violation? "score" (.number pointedThree)).isSome = true := by
  have hsigned : wholeThree.signed = pointedThree.signed := by decide +kernel
  have hwhole : (Value.number wholeThree).canonicalText = "3" := by decide +kernel
  have hpointed : (Value.number pointedThree).canonicalText = "3.0" := by decide +kernel
  have hs : ∀ c ∈ scoreField.constraints,
      ¬ c.Separates (.number wholeThree) (.number pointedThree) := by
    rintro c hc ⟨-, options, ho, hne⟩
    rcases List.mem_cons.1 hc with rfl | hc
    · cases ho
    · obtain rfl := List.mem_singleton.1 hc
      cases ho
      exact hne (by rw [hwhole, hpointed]; decide +kernel)
  have hok : ({ scoreField with default := some (.number wholeThree) }).problems "score" = [] := by
    decide +kernel
  have hsep : wholeOption.Separates (.number wholeThree) (.number pointedThree) := by
    refine ⟨by decide, _, rfl, ?_⟩
    rw [List.map_singleton, hwhole, hpointed]
    decide
  obtain ⟨halike, hdefaults⟩ := equal_numbers_judged_alike hsigned
  obtain ⟨-, options, ho, hreported⟩ := (halike wholeOption "score").2 hsep
  cases ho
  refine ⟨hsigned, hs, hok, (hdefaults scoreField "score" hs).1 hok, hsep, ?_⟩
  rw [hreported (.number pointedThree), List.map_singleton, hwhole, hpointed]
  decide

/-- An option is matched in its own spelling only. -/
theorem pointed_three_no_option :
    wholeThree.signed = pointedThree.signed ∧
    wholeOption.violation? "score" (.number wholeThree) = none ∧
    wholeOption.violation? "score" (.number pointedThree) =
      some ⟨"score", .oneOf, "must be one of [3]"⟩ := by
  decide +kernel

end Registrar
