import Registrar.Proofs.Derived
import Mathlib.Data.List.TakeWhile
import Mathlib.Tactic.ByContra

/-!
# Well-formed fields

`Field.WellFormed` says what a field has to be like under its name, without reference to how that is
checked; `Field.Breaks f name p` says that `f` breaks the rule that the problem `p` is about.
Validation lists exactly the problems of the rules that are broken (`Field.mem_problems_iff`), and a
field that breaks none is well formed (`Field.wellFormed_iff`).

There is one rule that is only judged when others are kept: a default is held against the
constraints of its field where it is of the type of the field and the constraints are sound by
themselves (`Field.Breaks.violation`).
-/

namespace Registrar

open Text

/-! ## Blank texts and conditions -/

theorem Text.trimmed_eq_nil_iff {s : List Char} : trimmed s = [] ↔ s.all isBlank = true := by
  unfold trimmed dropBlanks
  simp only [List.reverse_eq_nil_iff, List.dropWhile_eq_nil_iff, List.mem_reverse, List.all_eq_true]
  constructor
  · intro h
    -- what is left after the blanks at the start does not start with a blank
    have hleft : s.dropWhile isBlank = [] := by
      by_contra hne
      exact absurd (h _ (List.head_mem hne)) (by simp [List.head_dropWhile_not isBlank hne])
    exact List.dropWhile_eq_nil_iff.1 hleft
  · exact fun h c hc => h c ((List.dropWhile_sublist isBlank).subset hc)

theorem Text.trim_eq_empty_iff {s : String} : trim s = "" ↔ isBlankText s = true := by
  rw [isBlankText, ← trimmed_eq_nil_iff, ← toList_trim, String.toList_eq_nil_iff]

theorem nonBlank?_isSome_iff {s : Option String} :
    (nonBlank? s).isSome = true ↔ ∃ t, s = some t ∧ isBlankText t = false := by
  cases s with
  | none => simp [nonBlank?]
  | some t => simp [nonBlank?, Option.filter_some, trim_eq_empty_iff]

theorem nonBlank?_eq_none_iff {s : Option String} :
    nonBlank? s = none ↔ ∀ t, s = some t → isBlankText t = true := by
  rw [← Option.not_isSome_iff_eq_none, nonBlank?_isSome_iff]
  simp

theorem mem_demand_iff {ok : Bool} {p q : Problem} : p ∈ demand ok q ↔ ok = false ∧ p = q := by
  cases ok <;> simp [demand]

/-! ## Constraints -/

namespace Field

variable {f : Field} {name : String} {p : Problem}

/-- The bound that the constraints of a kind set: the argument of the first of them that has a
number. -/
def FirstBound (f : Field) (kind : ConstraintKind) (bound : Binary64) : Prop :=
  ∃ before c after, f.constraints = before ++ c :: after ∧
    c.kind? = some kind ∧ c.value.toDouble? = some bound ∧
    ∀ b ∈ before, b.kind? = some kind → b.value.toDouble? = none

/-- The lower bound is at most the upper one, where both are set. -/
def InOrder (f : Field) (low high : ConstraintKind) : Prop :=
  ∀ a b, f.FirstBound low a → f.FirstBound high b → a.signed ≤ b.signed

/-- The constraints are known and do not contradict each other. -/
structure SoundConstraints (f : Field) : Prop where
  known : ∀ c ∈ f.constraints, ∃ kind, c.kind? = some kind
  range : f.InOrder .min .max
  lengthRange : f.InOrder .minLength .maxLength

theorem bound?_eq_some_iff {kind : ConstraintKind} {bound : Binary64} :
    f.bound? kind = some bound ↔ f.FirstBound kind bound := by
  simp only [bound?, FirstBound, List.findSome?_eq_some_iff, Option.ite_none_right_eq_some,
    ite_eq_right_iff, and_assoc]

theorem mem_rangeProblems_iff {low high : ConstraintKind} {q : Binary64 → Binary64 → Problem} :
    p ∈ rangeProblems (f.bound? low) (f.bound? high) q ↔
      ∃ a b, f.FirstBound low a ∧ f.FirstBound high b ∧ b.signed < a.signed ∧ p = q a b := by
  simp only [← bound?_eq_some_iff]
  cases f.bound? low <;> cases f.bound? high <;>
    simp [rangeProblems, mem_demand_iff, Binary64.lt]

/-- The problems of the constraints, rule by rule. -/
theorem mem_constraintProblems_iff : p ∈ f.constraintProblems name ↔
    (∃ a b, f.FirstBound .min a ∧ f.FirstBound .max b ∧ b.signed < a.signed ∧
      p = .emptyRange name a b) ∨
    (∃ a b, f.FirstBound .minLength a ∧ f.FirstBound .maxLength b ∧ b.signed < a.signed ∧
      p = .emptyLengthRange name a b) ∨
    ∃ c ∈ f.constraints, c.kind? = none ∧ p = .constraintType name c.type := by
  simp only [constraintProblems, List.mem_append, mem_rangeProblems_iff, List.mem_flatMap,
    mem_demand_iff, Option.isSome_eq_false_iff, Option.isNone_iff_eq_none, or_assoc]

theorem constraintProblems_eq_nil_iff : f.constraintProblems name = [] ↔ f.SoundConstraints := by
  rw [List.eq_nil_iff_forall_not_mem]
  constructor
  · intro h
    constructor
    · intro c hc
      by_contra hk
      have hk : c.kind? = none := Option.eq_none_iff_forall_ne_some.2 fun k he => hk ⟨k, he⟩
      exact h _ (mem_constraintProblems_iff.2 (.inr (.inr ⟨c, hc, hk, rfl⟩)))
    · intro a b ha hb
      by_contra hlt
      exact h _ (mem_constraintProblems_iff.2 (.inl ⟨a, b, ha, hb, by omega, rfl⟩))
    · intro a b ha hb
      by_contra hlt
      exact h _ (mem_constraintProblems_iff.2 (.inr (.inl ⟨a, b, ha, hb, by omega, rfl⟩)))
  · intro h p hp
    rcases mem_constraintProblems_iff.1 hp with ⟨a, b, ha, hb, hlt, -⟩ | ⟨a, b, ha, hb, hlt, -⟩ |
      ⟨c, hc, hk, -⟩
    · exact absurd (h.range a b ha hb) (by omega)
    · exact absurd (h.lengthRange a b ha hb) (by omega)
    · obtain ⟨kind, hkind⟩ := h.known c hc
      rw [hk] at hkind
      cases hkind

end Field

/-! ## Defaults -/

/-- The values that a field of the type is given, as far as the type alone tells. -/
def FieldType.Carries : FieldType → Value → Prop
  | .int, v => v.isIntegral = true
  | .float, v => ∃ n, v = .number n
  | .bool, v => ∃ b, v = .bool b
  | .string, v | .email, v | .url, v | .secret, v | .uuid, v | .enum, v => ∃ s, v = .string s
  | .strings, v => ∃ items, v = .array items ∧ ∀ i ∈ items, ∃ s, i = .string s
  | .ints, v => ∃ items, v = .array items ∧ ∀ i ∈ items, i.isIntegral = true
  | .timestamp, _ | .duration, _ | .json, _ | .bytes, _ | .ref, _ => True

/-- A value of the type in words. -/
def FieldType.noun : FieldType → String
  | .int => "an integer"
  | .float => "a number"
  | .bool => "a boolean"
  | .string | .email | .url | .secret | .uuid => "a string"
  | .enum => "an enum member string"
  | .strings => "an array of strings"
  | .ints => "an array of integers"
  | .timestamp | .duration | .json | .bytes | .ref => "a value"

namespace Value

theorem text?_isSome_iff {v : Value} : v.text?.isSome = true ↔ ∃ s, v = .string s := by
  cases v <;> simp [text?]

theorem toDouble?_isSome_iff {v : Value} : v.toDouble?.isSome = true ↔ ∃ n, v = .number n := by
  cases v <;> simp [toDouble?]

theorem kindName_eq_boolean_iff {v : Value} : v.kindName = "boolean" ↔ ∃ b, v = .bool b := by
  cases v <;> simp [kindName]

theorem all_items_iff {v : Value} {q : Value → Bool} :
    (v.items?.map (·.all q)).getD false = true ↔
      ∃ items, v = .array items ∧ ∀ i ∈ items, q i = true := by
  cases v <;> simp [items?]

end Value

namespace Field

variable {f : Field} {name : String} {p : Problem}

/-- The value is one that a field of this type can have. -/
structure Assignable (f : Field) (type : FieldType) (v : Value) : Prop where
  carried : type.Carries v
  member : type = .enum → ∃ s ∈ f.values, v = .string s
  uuid : type = .uuid → ∃ s, v = .string s ∧ Uuid.isUuid s = true

/-- How a value is not one that a field of this type can have. -/
inductive Mistyped (f : Field) (name : String) : FieldType → Value → Problem → Prop
  | kind {type v} (h : ¬ type.Carries v) : Mistyped f name type v (.defaultType name v type.noun)
  | member {s} (h : s ∉ f.values) :
    Mistyped f name .enum (.string s) (.defaultMember name s f.values)
  | uuid {s} (h : Uuid.isUuid s = false) :
    Mistyped f name .uuid (.string s) (.defaultUuid name (.string s))

theorem assignable_iff {type : FieldType} {v : Value} :
    f.Assignable type v ↔ ∀ p, ¬ f.Mistyped name type v p := by
  constructor
  · intro h p hp
    cases hp with
    | kind hk => exact hk h.carried
    | member hs =>
      obtain ⟨s, hm, he⟩ := h.member rfl
      cases he
      exact hs hm
    | uuid hs =>
      obtain ⟨s, he, hu⟩ := h.uuid rfl
      cases he
      simp [hu] at hs
  · intro h
    have hc : type.Carries v := by
      by_contra hk
      exact h _ (.kind hk)
    refine ⟨hc, ?_, ?_⟩
    · rintro rfl
      obtain ⟨s, rfl⟩ := hc
      exact ⟨s, by_contra fun hs => h _ (.member hs), rfl⟩
    · rintro rfl
      obtain ⟨s, rfl⟩ := hc
      exact ⟨s, rfl, by_contra fun hs => h _ (.uuid (by simpa using hs))⟩

theorem defaultProblem?_of_kind {type : FieldType} {v : Value} (he : type ≠ .enum)
    (hu : type ≠ .uuid) : f.defaultProblem? name type v = some p ↔
      ¬ type.Carries v ∧ .defaultType name v type.noun = p := by
  cases type <;> first
    | contradiction
    | simp only [defaultProblem?, FieldType.Carries, FieldType.noun, ← Value.text?_isSome_iff,
        ← Value.toDouble?_isSome_iff, ← Value.kindName_eq_boolean_iff, ← Value.all_items_iff,
        Option.ite_none_left_eq_some, Option.some.injEq, decide_eq_true_eq, reduceCtorEq,
        not_true_eq_false, false_and]

/-- A value that is not a text is no member of an enum and no identifier. -/
theorem defaultProblem?_of_not_text {type : FieldType} {v : Value}
    (ht : type = .enum ∨ type = .uuid) (hv : ¬ ∃ s, v = .string s) :
    f.defaultProblem? name type v = some (.defaultType name v type.noun) := by
  have hn : v.text? = none := by
    rwa [← Option.isNone_iff_eq_none, ← Option.isSome_eq_false_iff, ← Bool.not_eq_true,
      Value.text?_isSome_iff]
  rcases ht with rfl | rfl <;> simp [defaultProblem?, FieldType.noun, hn]

theorem defaultProblem?_eq_some_iff {type : FieldType} {v : Value} :
    f.defaultProblem? name type v = some p ↔ f.Mistyped name type v p := by
  by_cases ht : type = .enum ∨ type = .uuid
  · have hk : type.Carries v ↔ ∃ s, v = .string s := by
      rcases ht with rfl | rfl <;> rfl
    by_cases hv : ∃ s, v = .string s
    · -- only the member or the form of the identifier can be wrong
      obtain ⟨s, rfl⟩ := hv
      constructor
      · intro h
        rcases ht with rfl | rfl
        · obtain ⟨hs, he⟩ := Option.ite_none_left_eq_some.1 h
          cases he
          exact .member (by simpa using hs)
        · obtain ⟨hs, he⟩ := Option.ite_none_left_eq_some.1 h
          cases he
          exact .uuid (by simpa using hs)
      · intro h
        cases h with
        | kind h => exact absurd ⟨s, rfl⟩ (hk.not.1 h)
        | member h => simp [defaultProblem?, Value.text?, h]
        | uuid h => simp [defaultProblem?, Value.text?, h]
    · rw [defaultProblem?_of_not_text ht hv, Option.some.injEq]
      constructor
      · rintro rfl
        exact .kind (hk.not.2 hv)
      · intro h
        cases h with
        | kind => rfl
        | member => exact absurd ⟨_, rfl⟩ hv
        | uuid => exact absurd ⟨_, rfl⟩ hv
  · rw [not_or] at ht
    rw [defaultProblem?_of_kind ht.1 ht.2]
    constructor
    · rintro ⟨h, rfl⟩
      exact .kind h
    · intro h
      cases h with
      | kind h => exact ⟨h, rfl⟩
      | member => exact absurd rfl ht.1
      | uuid => exact absurd rfl ht.2

/-! ## Fields -/

/-- What the type of a field demands of the field. -/
structure Suits (f : Field) (type : FieldType) : Prop where
  values : type = .enum → f.values ≠ []
  target : type = .ref → ∃ t, f.target = some t ∧ isBlankText t = false
  default : ∀ v, f.default = some v → f.Assignable type v

/-- A field is well formed under its name. -/
structure WellFormed (f : Field) (name : String) : Prop where
  named : Naming.isIdentifier name = true
  typed : ∃ type, f.fieldType? = some type ∧ f.Suits type
  sound : f.SoundConstraints
  obeyed : ∀ v, f.default = some v → f.violations name v = []

/-- The rules for a field that can be broken, each with the problem that tells of it. -/
inductive Breaks (f : Field) (name : String) : Problem → Prop
  | name (h : Naming.isIdentifier name = false) : f.Breaks name (.fieldName name)
  | type (h : f.fieldType? = none) : f.Breaks name (.fieldType name f.type)
  | values (ht : f.fieldType? = some .enum) (h : f.values = []) :
    f.Breaks name (.enumWithoutValues name)
  | target (ht : f.fieldType? = some .ref)
    (h : ¬ ∃ t, f.target = some t ∧ isBlankText t = false) : f.Breaks name (.refWithoutTarget name)
  | range {a b} (ha : f.FirstBound .min a) (hb : f.FirstBound .max b) (h : b.signed < a.signed) :
    f.Breaks name (.emptyRange name a b)
  | lengthRange {a b} (ha : f.FirstBound .minLength a) (hb : f.FirstBound .maxLength b)
    (h : b.signed < a.signed) : f.Breaks name (.emptyLengthRange name a b)
  | constraint {c} (hc : c ∈ f.constraints) (h : c.kind? = none) :
    f.Breaks name (.constraintType name c.type)
  | default {type v p} (ht : f.fieldType? = some type) (hv : f.default = some v)
    (h : f.Mistyped name type v p) : f.Breaks name p
  | violation {type v w} (ht : f.fieldType? = some type) (hv : f.default = some v)
    (ha : f.Assignable type v) (hs : f.SoundConstraints) (h : w ∈ f.violations name v) :
    f.Breaks name (.defaultViolation name v w)

theorem breaks_of_mem_constraintProblems (h : p ∈ f.constraintProblems name) :
    f.Breaks name p := by
  rcases mem_constraintProblems_iff.1 h with ⟨a, b, ha, hb, hlt, rfl⟩ | ⟨a, b, ha, hb, hlt, rfl⟩ |
    ⟨c, hc, hk, rfl⟩
  · exact .range ha hb hlt
  · exact .lengthRange ha hb hlt
  · exact .constraint hc hk

theorem mem_typeProblems_iff {type : FieldType} : p ∈ f.typeProblems name type ↔
    (type = .enum ∧ f.values = [] ∧ p = .enumWithoutValues name) ∨
    (type = .ref ∧ (¬ ∃ t, f.target = some t ∧ isBlankText t = false) ∧
      p = .refWithoutTarget name) := by
  rw [← nonBlank?_isSome_iff]
  cases type <;> simp [typeProblems, mem_demand_iff]

theorem mem_defaultProblems_iff {type : FieldType} : p ∈ f.defaultProblems name type ↔
    ∃ v, f.default = some v ∧ (f.Mistyped name type v p ∨ f.Assignable type v ∧
      f.SoundConstraints ∧ ∃ w ∈ f.violations name v, p = .defaultViolation name v w) := by
  unfold defaultProblems
  split
  · rename_i h
    simp [h]
  · rename_i v h
    simp only [h, Option.some.injEq, exists_eq_left']
    split
    · rename_i q hq
      have hm : f.Mistyped name type v q := defaultProblem?_eq_some_iff.1 hq
      have hna : ¬ f.Assignable type v := fun ha => assignable_iff.1 ha q hm
      rw [List.mem_singleton, ← defaultProblem?_eq_some_iff, hq]
      simp [hna, eq_comm]
    · rename_i hn
      have hnm : ∀ q, ¬ f.Mistyped name type v q := fun q hq => by
        rw [defaultProblem?_eq_some_iff.2 hq] at hn
        cases hn
      have ha : f.Assignable type v := assignable_iff.2 hnm
      have hs : (f.constraintProblems name).isEmpty = true ↔ f.SoundConstraints := by
        rw [List.isEmpty_iff, constraintProblems_eq_nil_iff]
      split <;> rename_i hc
      · simp [hnm, ha, hs.1 hc, eq_comm]
      · simp [hnm, hs.not.1 hc]

/-- The constraints are looked at whether the type is known or not. -/
theorem mem_problems_of_constraint (h : p ∈ f.constraintProblems name) : p ∈ f.problems name := by
  unfold problems
  split <;> simp [h]

theorem breaks_of_mem_problems (h : p ∈ f.problems name) : f.Breaks name p := by
  unfold problems at h
  rw [List.mem_append, mem_demand_iff] at h
  rcases h with ⟨h, rfl⟩ | h
  · exact .name h
  · split at h
    · rename_i ht
      rcases List.mem_cons.1 h with rfl | h
      · exact .type ht
      · exact breaks_of_mem_constraintProblems h
    · rename_i type ht
      simp only [List.mem_append, or_assoc] at h
      rcases h with h | h | h
      · rcases mem_typeProblems_iff.1 h with ⟨rfl, hb, rfl⟩ | ⟨rfl, hb, rfl⟩
        · exact .values ht hb
        · exact .target ht hb
      · exact breaks_of_mem_constraintProblems h
      · obtain ⟨v, hv, h | ⟨ha, hs, w, hw, rfl⟩⟩ := mem_defaultProblems_iff.1 h
        · exact .default ht hv h
        · exact .violation ht hv ha hs hw

theorem Breaks.mem_problems (h : f.Breaks name p) : p ∈ f.problems name := by
  cases h with
  | name h => simp [problems, mem_demand_iff, h]
  | type h => simp [problems, h]
  | values ht h => simp [problems, ht, mem_typeProblems_iff, h]
  | target ht h => simp [problems, ht, mem_typeProblems_iff, h]
  | range ha hb h =>
    exact mem_problems_of_constraint (mem_constraintProblems_iff.2 (.inl ⟨_, _, ha, hb, h, rfl⟩))
  | lengthRange ha hb h =>
    exact mem_problems_of_constraint
      (mem_constraintProblems_iff.2 (.inr (.inl ⟨_, _, ha, hb, h, rfl⟩)))
  | constraint hc h =>
    exact mem_problems_of_constraint
      (mem_constraintProblems_iff.2 (.inr (.inr ⟨_, hc, h, rfl⟩)))
  | default ht hv h =>
    simp only [problems, ht, List.mem_append, mem_defaultProblems_iff]
    exact .inr (.inr ⟨_, hv, .inl h⟩)
  | violation ht hv ha hs h =>
    simp only [problems, ht, List.mem_append, mem_defaultProblems_iff]
    exact .inr (.inr ⟨_, hv, .inr ⟨ha, hs, _, h, rfl⟩⟩)

/-- The problems of a field tell exactly of the rules that it breaks. -/
theorem mem_problems_iff : p ∈ f.problems name ↔ f.Breaks name p :=
  ⟨breaks_of_mem_problems, Breaks.mem_problems⟩

theorem WellFormed.not_breaks (h : f.WellFormed name) : ¬ f.Breaks name p := by
  intro hp
  obtain ⟨type, ht, hsuits⟩ := h.typed
  cases hp with
  | name hn => simp [h.named] at hn
  | type hn => simp [ht] at hn
  | values he hn =>
    cases ht.symm.trans he
    exact hsuits.values rfl hn
  | target he hn =>
    cases ht.symm.trans he
    exact hn (hsuits.target rfl)
  | range ha hb hlt => exact absurd (h.sound.range _ _ ha hb) (by omega)
  | lengthRange ha hb hlt => exact absurd (h.sound.lengthRange _ _ ha hb) (by omega)
  | constraint hc hn =>
    obtain ⟨kind, hk⟩ := h.sound.known _ hc
    simp [hk] at hn
  | default he hv hm =>
    cases ht.symm.trans he
    exact assignable_iff.1 (hsuits.default _ hv) _ hm
  | violation he hv ha hs hw => simp [h.obeyed _ hv] at hw

theorem wellFormed_of_not_breaks (h : ∀ p, ¬ f.Breaks name p) : f.WellFormed name := by
  have hnil : f.constraintProblems name = [] :=
    List.eq_nil_iff_forall_not_mem.2 fun p hp => h p (breaks_of_mem_constraintProblems hp)
  have hsound : f.SoundConstraints := constraintProblems_eq_nil_iff.1 hnil
  obtain ⟨type, ht⟩ : ∃ type, f.fieldType? = some type :=
    Option.ne_none_iff_exists'.1 fun hn => h _ (.type hn)
  have hfits : ∀ v, f.default = some v → f.Assignable type v := fun v hv =>
    assignable_iff.2 fun p hp => h p (.default ht hv hp)
  refine ⟨?_, ⟨type, ht, ?_, ?_, hfits⟩, hsound, ?_⟩
  · exact by_contra fun hn => h _ (.name (by simpa using hn))
  · rintro rfl hv
    exact h _ (.values ht hv)
  · rintro rfl
    exact by_contra fun hn => h _ (.target ht hn)
  · intro v hv
    refine List.eq_nil_iff_forall_not_mem.2 fun w hw => ?_
    exact h _ (.violation ht hv (hfits v hv) hsound hw)

theorem wellFormed_iff : f.WellFormed name ↔ ∀ p, ¬ f.Breaks name p :=
  ⟨fun h _ => h.not_breaks, wellFormed_of_not_breaks⟩

end Field

end Registrar
