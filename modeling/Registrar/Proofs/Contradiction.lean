import Registrar.Proofs.FieldRules
import Mathlib.Data.List.MinMax

/-!
# Contradictory bounds

Validation compares the first bounds that a field sets (`Field.bound?`), while a value is held
against every constraint. `Field.bounds` and `Field.lengths` list what all constraints of a kind ask
for, and some value keeps them all if and only if no lower bound exceeds an upper one
(`Field.exists_number_iff`, `Field.exists_text_iff`). Where the first bounds are as tight as any
other, validation therefore reports every contradiction; what it reports of numbers is always one,
and what it reports of lengths is one where the bounds are lengths
(`Field.reported_contradictions`).
-/

namespace Registrar

/-! ## Between bounds -/

/-- There is something between lower and upper bounds where no lower bound exceeds an upper one: the
greatest of the lower bounds, or else the least of the upper ones. -/
theorem exists_between_iff {α β κ : Type} [LinearOrder κ] [Nonempty β] (key : α → κ)
    (measure : β → κ) (hkey : ∀ a, ∃ x, measure x = key a) {low high : List α} :
    (∃ x, (∀ a ∈ low, key a ≤ measure x) ∧ ∀ b ∈ high, measure x ≤ key b) ↔
      ∀ a ∈ low, ∀ b ∈ high, key a ≤ key b := by
  constructor
  · rintro ⟨x, hlow, hhigh⟩ a ha b hb
    exact (hlow a ha).trans (hhigh b hb)
  · intro h
    cases hlow : low.argmax key with
    | some a =>
      obtain ⟨x, hx⟩ := hkey a
      refine ⟨x, fun a' ha' => ?_, fun b hb => ?_⟩
      · exact (List.le_of_mem_argmax ha' hlow).trans hx.ge
      · exact hx.le.trans (h a (List.argmax_mem hlow) b hb)
    | none =>
      rw [List.argmax_eq_none] at hlow
      subst hlow
      cases hhigh : high.argmin key with
      | some b =>
        obtain ⟨x, hx⟩ := hkey b
        refine ⟨x, List.forall_mem_nil _, fun b' hb' => ?_⟩
        exact hx.le.trans (List.le_of_mem_argmin hb' hhigh)
      | none =>
        rw [List.argmin_eq_none] at hhigh
        subst hhigh
        exact ⟨Classical.arbitrary β, List.forall_mem_nil _, List.forall_mem_nil _⟩

instance : Nonempty Number := ⟨.double default⟩

namespace Field

variable {f : Field} {name : String}

/-! ## Bounds -/

/-- What the arguments of the constraints of a kind are read as, in order. -/
def readings {α : Type} (f : Field) (kind : ConstraintKind) (read : Value → Option α) : List α :=
  f.constraints.filterMap fun c => if c.kind? = some kind then read c.value else none

/-- The numbers that the constraints of a kind set as bounds. -/
def bounds (f : Field) (kind : ConstraintKind) : List Binary64 := f.readings kind Value.toDouble?

/-- The lengths that the constraints of a kind set as bounds. -/
def lengths (f : Field) (kind : ConstraintKind) : List Nat := f.readings kind Value.length?

theorem mem_readings_iff {α : Type} {kind : ConstraintKind} {read : Value → Option α} {a : α} :
    a ∈ f.readings kind read ↔
      ∃ c ∈ f.constraints, c.kind? = some kind ∧ read c.value = some a := by
  simp only [readings, List.mem_filterMap, Option.ite_none_right_eq_some]

theorem head?_bounds (f : Field) (kind : ConstraintKind) :
    (f.bounds kind).head? = f.bound? kind :=
  List.head?_filterMap

theorem mem_bounds_of_bound? {kind : ConstraintKind} {a : Binary64} (h : f.bound? kind = some a) :
    a ∈ f.bounds kind :=
  List.mem_of_head? ((f.head?_bounds kind).trans h)

theorem mem_lengths_iff {kind : ConstraintKind} {n : Nat} : n ∈ f.lengths kind ↔
    ∃ d ∈ f.bounds kind, 0 ≤ d.signed ∧ min d.floorAbs Value.lengthLimit = n := by
  simp only [lengths, bounds, mem_readings_iff, Value.length?_eq_some_iff]
  constructor
  · rintro ⟨c, hc, hk, d, hd, hn⟩
    exact ⟨d, ⟨c, hc, hk, hd⟩, hn⟩
  · rintro ⟨d, ⟨c, hc, hk, hd⟩, hn⟩
    exact ⟨c, hc, hk, d, hd, hn⟩

/-! ## Values that keep all bounds -/

/-- The value breaks no constraint of the kind. -/
def Keeps (f : Field) (name : String) (kind : ConstraintKind) (v : Value) : Prop :=
  ∀ c ∈ f.constraints, c.kind? = some kind → c.violation? name v = none

theorem violation?_eq_none_iff {c : Constraint} {kind : ConstraintKind} (hk : c.kind? = some kind)
    {v : Value} : c.violation? name v = none ↔ Constraint.breach? kind v c.value = none := by
  rw [Constraint.violation?_of_kind hk, Option.map_eq_none_iff]

/-- To keep the constraints of a kind is to keep what each of them is read as. -/
theorem keeps_iff_of_breach {α : Type} {kind : ConstraintKind} {read : Value → Option α} {v : Value}
    {ok : α → Prop}
    (h : ∀ argument,
      Constraint.breach? kind v argument = none ↔ ∀ a, read argument = some a → ok a) :
    f.Keeps name kind v ↔ ∀ a ∈ f.readings kind read, ok a := by
  constructor
  · intro hkeeps a ha
    obtain ⟨c, hc, hk, hread⟩ := mem_readings_iff.1 ha
    exact (h c.value).1 ((violation?_eq_none_iff hk).1 (hkeeps c hc hk)) a hread
  · intro hok c hc hk
    refine (violation?_eq_none_iff hk).2 ((h c.value).2 fun a ha => hok a ?_)
    exact mem_readings_iff.2 ⟨c, hc, hk, ha⟩

theorem keeps_min_iff {n : Number} :
    f.Keeps name .min (.number n) ↔ ∀ a ∈ f.bounds .min, a.signed ≤ n.toDouble.signed := by
  have hn : (Value.number n).toDouble? = some n.toDouble := rfl
  refine keeps_iff_of_breach fun argument => ?_
  cases h : argument.toDouble?
  all_goals simp [Constraint.breach?, Constraint.belowMin, Binary64.lt, hn, h]

theorem keeps_max_iff {n : Number} :
    f.Keeps name .max (.number n) ↔ ∀ b ∈ f.bounds .max, n.toDouble.signed ≤ b.signed := by
  have hn : (Value.number n).toDouble? = some n.toDouble := rfl
  refine keeps_iff_of_breach fun argument => ?_
  cases h : argument.toDouble?
  all_goals simp [Constraint.breach?, Constraint.aboveMax, Binary64.lt, hn, h]

theorem keeps_minLength_iff {s : String} :
    f.Keeps name .minLength (.string s) ↔ ∀ a ∈ f.lengths .minLength, a ≤ s.length := by
  refine keeps_iff_of_breach fun argument => ?_
  cases h : argument.length? <;>
    simp [Constraint.breach?, Constraint.lengths?, Value.text?, h]

theorem keeps_maxLength_iff {s : String} :
    f.Keeps name .maxLength (.string s) ↔ ∀ b ∈ f.lengths .maxLength, s.length ≤ b := by
  refine keeps_iff_of_breach fun argument => ?_
  cases h : argument.length? <;>
    simp [Constraint.breach?, Constraint.lengths?, Value.text?, h]

/-- A number keeps all bounds on numbers unless a lower one exceeds an upper one. -/
theorem exists_number_iff (f : Field) (name : String) :
    (∃ n : Number, f.Keeps name .min (.number n) ∧ f.Keeps name .max (.number n)) ↔
      ∀ a ∈ f.bounds .min, ∀ b ∈ f.bounds .max, a.signed ≤ b.signed := by
  simp only [keeps_min_iff, keeps_max_iff]
  exact exists_between_iff Binary64.signed (fun n : Number => n.toDouble.signed)
    fun a => ⟨.double a, rfl⟩

/-- A string keeps all bounds on lengths unless a lower one exceeds an upper one. -/
theorem exists_text_iff (f : Field) (name : String) :
    (∃ s : String, f.Keeps name .minLength (.string s) ∧ f.Keeps name .maxLength (.string s)) ↔
      ∀ a ∈ f.lengths .minLength, ∀ b ∈ f.lengths .maxLength, a ≤ b := by
  simp only [keeps_minLength_iff, keeps_maxLength_iff]
  exact exists_between_iff id String.length fun n => ⟨.ofList (.replicate n 'a'), by simp⟩

/-! ## What is reported -/

/-- The first bounds of two kinds are the wrong way round. -/
def FirstCross (f : Field) (low high : ConstraintKind) : Prop :=
  ∃ a ∈ f.bound? low, ∃ b ∈ f.bound? high, b.signed < a.signed

instance (f : Field) (low high : ConstraintKind) : Decidable (f.FirstCross low high) :=
  inferInstanceAs (Decidable (∃ a ∈ f.bound? low, ∃ b ∈ f.bound? high, b.signed < a.signed))

/-- No bound of the two kinds is tighter than the first one of its kind. -/
structure FirstTightest (f : Field) (low high : ConstraintKind) : Prop where
  low : ∀ a ∈ f.bound? low, ∀ b ∈ f.bounds low, b.signed ≤ a.signed
  high : ∀ a ∈ f.bound? high, ∀ b ∈ f.bounds high, a.signed ≤ b.signed

/-- The first bounds on lengths are bounds as they stand: the lower one is a whole number, and the
upper one is neither negative nor beyond all lengths. -/
structure FirstAreLengths (f : Field) : Prop where
  low : ∀ a ∈ f.bound? .minLength, a.isIntegral = true
  high : ∀ b ∈ f.bound? .maxLength, 0 ≤ b.signed ∧ b.floorAbs < Value.lengthLimit

theorem range_reported_iff :
    (∃ a b, .emptyRange name a b ∈ f.problems name) ↔ f.FirstCross .min .max := by
  simp only [mem_problems_iff, FirstCross, Option.mem_def, bound?_eq_some_iff]
  constructor
  · rintro ⟨a, b, h⟩
    cases h with
    | range ha hb h => exact ⟨a, ha, b, hb, h⟩
    | default ht hv h => cases h
  · rintro ⟨a, ha, b, hb, h⟩
    exact ⟨a, b, .range ha hb h⟩

theorem lengths_reported_iff :
    (∃ a b, .emptyLengthRange name a b ∈ f.problems name) ↔
      f.FirstCross .minLength .maxLength := by
  simp only [mem_problems_iff, FirstCross, Option.mem_def, bound?_eq_some_iff]
  constructor
  · rintro ⟨a, b, h⟩
    cases h with
    | lengthRange ha hb h => exact ⟨a, ha, b, hb, h⟩
    | default ht hv h => cases h
  · rintro ⟨a, ha, b, hb, h⟩
    exact ⟨a, b, .lengthRange ha hb h⟩

section
variable {low high : ConstraintKind}

theorem FirstCross.exists_bounds (h : f.FirstCross low high) :
    ∃ a ∈ f.bounds low, ∃ b ∈ f.bounds high, b.signed < a.signed := by
  obtain ⟨a, ha, b, hb, hlt⟩ := h
  exact ⟨a, mem_bounds_of_bound? ha, b, mem_bounds_of_bound? hb, hlt⟩

theorem exists_bound? {kind : ConstraintKind} {a : Binary64} (h : a ∈ f.bounds kind) :
    ∃ b, f.bound? kind = some b := by
  rw [← head?_bounds]
  exact ⟨_, List.head?_eq_some_head (List.ne_nil_of_mem h)⟩

/-- Where the first bounds are the tightest they cross if any do. -/
theorem FirstTightest.cross (h : f.FirstTightest low high) {a b : Binary64}
    (ha : a ∈ f.bounds low) (hb : b ∈ f.bounds high) (hlt : b.signed < a.signed) :
    f.FirstCross low high := by
  obtain ⟨a', ha'⟩ := exists_bound? ha
  obtain ⟨b', hb'⟩ := exists_bound? hb
  have hlow := h.low a' ha' a ha
  have hhigh := h.high b' hb' b hb
  exact ⟨a', ha', b', hb', by omega⟩

end

/-! ## Lengths -/

theorem units_of_signed {d : Binary64} (h : 0 ≤ d.signed) : d.signed = d.units := by
  unfold Binary64.signed at h ⊢
  split at h
  · rename_i hn
    rw [if_pos hn]
    omega
  · rename_i hn
    rw [if_neg hn]

/-- Bounds on lengths that cross do so with their fractions too. -/
theorem signed_lt_of_length_lt {a b : Binary64} (ha : 0 ≤ a.signed) (hb : 0 ≤ b.signed)
    (h : min b.floorAbs Value.lengthLimit < min a.floorAbs Value.lengthLimit) :
    b.signed < a.signed := by
  have hfloor : b.floorAbs < a.floorAbs := by omega
  have hunits : b.units < a.units := Nat.lt_of_div_lt_div hfloor
  rw [units_of_signed ha, units_of_signed hb]
  omega

theorem FirstAreLengths.length_lt (h : f.FirstAreLengths) {a b : Binary64}
    (ha : f.bound? .minLength = some a) (hb : f.bound? .maxLength = some b)
    (hlt : b.signed < a.signed) :
    0 ≤ a.signed ∧ 0 ≤ b.signed ∧
      min b.floorAbs Value.lengthLimit < min a.floorAbs Value.lengthLimit := by
  obtain ⟨hnonneg, hlimit⟩ := h.high b hb
  have hpos : 0 ≤ a.signed := by omega
  have hwhole : a.units % Binary64.one = 0 := by simpa [Binary64.isIntegral] using h.low a ha
  have hunits : b.units < Binary64.one * (a.units / Binary64.one) := by
    rw [Nat.mul_div_cancel' (Nat.dvd_of_mod_eq_zero hwhole)]
    rw [units_of_signed hpos, units_of_signed hnonneg] at hlt
    omega
  have hfloor : b.floorAbs < a.floorAbs := Nat.div_lt_of_lt_mul hunits
  exact ⟨hpos, hnonneg, by omega⟩

/-! ## Agreement -/

/-- What validation reports of bounds on numbers no number keeps, and where no bound is tighter than
the first of its kind it reports all of that. The same goes for bounds on lengths and strings, where
what is reported has to be bounds as they stand. -/
theorem reported_contradictions (f : Field) (name : String) :
    let rangeReported := ∃ a b, Problem.emptyRange name a b ∈ f.problems name
    let lengthsReported := ∃ a b, Problem.emptyLengthRange name a b ∈ f.problems name
    let number := ∃ n : Number, f.Keeps name .min (.number n) ∧ f.Keeps name .max (.number n)
    let text := ∃ s : String,
      f.Keeps name .minLength (.string s) ∧ f.Keeps name .maxLength (.string s)
    (rangeReported → ¬ number) ∧
    (f.FirstTightest .min .max → (rangeReported ↔ ¬ number)) ∧
    (f.FirstTightest .minLength .maxLength → ¬ text → lengthsReported) ∧
    (f.FirstAreLengths → lengthsReported → ¬ text) := by
  intro rangeReported lengthsReported number text
  have hsound : rangeReported → ¬ number := fun hr hn => by
    obtain ⟨a, ha, b, hb, hlt⟩ := (range_reported_iff.1 hr).exists_bounds
    exact absurd ((exists_number_iff f name).1 hn a ha b hb) (by omega)
  refine ⟨hsound, fun ht => ⟨hsound, fun hn => ?_⟩, fun ht hs => ?_, fun hl hr hs => ?_⟩
  · have hn := (exists_number_iff f name).not.1 hn
    push Not at hn
    obtain ⟨a, ha, b, hb, hlt⟩ := hn
    exact range_reported_iff.2 (ht.cross ha hb hlt)
  · have hs := (exists_text_iff f name).not.1 hs
    push Not at hs
    obtain ⟨m, hm, n, hn, hlt⟩ := hs
    obtain ⟨a, ha, hpos, rfl⟩ := mem_lengths_iff.1 hm
    obtain ⟨b, hb, hpos', rfl⟩ := mem_lengths_iff.1 hn
    exact lengths_reported_iff.2 (ht.cross ha hb (signed_lt_of_length_lt hpos hpos' hlt))
  · obtain ⟨a, ha, b, hb, hlt⟩ := lengths_reported_iff.1 hr
    obtain ⟨hpos, hpos', hless⟩ := hl.length_lt ha hb hlt
    have hle := (exists_text_iff f name).1 hs _
      (mem_lengths_iff.2 ⟨a, mem_bounds_of_bound? ha, hpos, rfl⟩) _
      (mem_lengths_iff.2 ⟨b, mem_bounds_of_bound? hb, hpos', rfl⟩)
    omega

/-- A field with these bounds. -/
def bounded (bounds : List (ConstraintKind × Number)) : Field :=
  { type := "json", constraints := bounds.map fun (kind, n) => ⟨kind.tag, .number n, none⟩ }

/-- An integer of 64 bits. -/
def whole (i : Int) (h : IsWord i := by decide) : Number := .int i h

/-- Two and a half. -/
def twoAndAHalf : Number := .double ⟨false, 5 <<< 1073, by decide +kernel⟩

/-- Two and a quarter. -/
def twoAndAQuarter : Number := .double ⟨false, 9 <<< 1072, by decide +kernel⟩

/-- A field whose bounds contradict each other, repeated and with a fraction. -/
def closedField : Field :=
  bounded [(.max, twoAndAHalf), (.min, whole 5), (.min, whole (-3)), (.minLength, whole 4),
    (.maxLength, twoAndAQuarter), (.maxLength, whole 9)]

/-- Both contradictions of a field, and that nothing keeps its bounds. -/
theorem closedField_reported :
    closedField.FirstTightest .min .max ∧ closedField.FirstTightest .minLength .maxLength ∧
    closedField.FirstAreLengths ∧
    (∃ a b, Problem.emptyRange "age" a b ∈ closedField.problems "age") ∧
    (∃ a b, Problem.emptyLengthRange "age" a b ∈ closedField.problems "age") ∧
    (¬ ∃ n : Number,
      closedField.Keeps "age" .min (.number n) ∧ closedField.Keeps "age" .max (.number n)) ∧
    ¬ ∃ s : String, closedField.Keeps "age" .minLength (.string s) ∧
      closedField.Keeps "age" .maxLength (.string s) := by
  have hrange : closedField.FirstTightest .min .max := ⟨by decide +kernel, by decide +kernel⟩
  have hlengths : closedField.FirstTightest .minLength .maxLength :=
    ⟨by decide +kernel, by decide +kernel⟩
  have hfirst : closedField.FirstAreLengths := ⟨by decide +kernel, by decide +kernel⟩
  have hshort : ¬ ∃ s : String, closedField.Keeps "age" .minLength (.string s) ∧
      closedField.Keeps "age" .maxLength (.string s) := by
    rw [exists_text_iff]
    decide +kernel
  have hnone : ¬ ∃ n : Number,
      closedField.Keeps "age" .min (.number n) ∧ closedField.Keeps "age" .max (.number n) := by
    rw [exists_number_iff]
    decide +kernel
  obtain ⟨-, hiff, hreport, -⟩ := reported_contradictions closedField "age"
  exact ⟨hrange, hlengths, hfirst, (hiff hrange).2 hnone, hreport hlengths hshort, hnone, hshort⟩

/-- A field whose second lower bound exceeds the upper one. -/
def laterTighter : Field := bounded [(.min, whole 1), (.min, whole 10), (.max, whole 5)]

/-- A field whose bounds on lengths differ in their fractions. -/
def fractional : Field := bounded [(.minLength, twoAndAHalf), (.maxLength, twoAndAQuarter)]

/-- A field with a bound on lengths that is negative. -/
def belowZero : Field := bounded [(.minLength, whole 0), (.maxLength, whole (-1))]

/-- A field whose bounds on lengths are `2 ^ 65` and `2 ^ 64`, which no length exceeds. -/
def beyondLengths : Field :=
  bounded [(.minLength, .double ⟨false, 1 <<< 1139, by decide +kernel⟩),
    (.maxLength, .double ⟨false, 1 <<< 1138, by decide +kernel⟩)]

/-- Validation and the constraints part ways over a later bound that is tighter, and over bounds on
lengths with a fraction, below zero or beyond all lengths. -/
theorem bounds_read_apart :
    ((¬ ∃ n : Number, laterTighter.Keeps "age" .min (.number n) ∧
        laterTighter.Keeps "age" .max (.number n)) ∧
      ¬ ∃ a b, Problem.emptyRange "age" a b ∈ laterTighter.problems "age") ∧
    (∀ f ∈ [fractional, belowZero, beyondLengths],
      (∃ s : String, f.Keeps "tag" .minLength (.string s) ∧ f.Keeps "tag" .maxLength (.string s)) ∧
      ∃ a b, Problem.emptyLengthRange "tag" a b ∈ f.problems "tag") := by
  simp only [exists_number_iff, exists_text_iff, range_reported_iff, lengths_reported_iff]
  exact ⟨by decide +kernel, by decide +kernel⟩

end Field

end Registrar
