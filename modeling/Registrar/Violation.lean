import Registrar.Json.Printer
import Registrar.Pattern
import Registrar.Schema.Module

/-!
# Constraints on values

Whether a value breaks a constraint. Only a definite breach counts: a constraint of unknown kind,
with an argument that makes no sense, or that does not apply to values of this type, is not broken.
-/

namespace Registrar

open Text

/-- A constraint of a field that a value breaks. -/
structure Violation where
  field : String
  kind : ConstraintKind
  message : String
  deriving DecidableEq, Repr

/-- The text of a violation. -/
def Violation.text (v : Violation) : String := s!"{v.field}: {v.message}"

namespace Value

/-- The greatest length that counts. -/
def lengthLimit : Nat := 0xFFFFFFFFFFFFFFFF

/-- A length given by a number that is not negative, without its fractional part. -/
def length? (v : Value) : Option Nat :=
  match v.toDouble? with
  | some d => if 0 ≤ d.signed then some (min d.floorAbs lengthLimit) else none
  | none => none

theorem length?_eq_some_iff {v : Value} {n : Nat} : v.length? = some n ↔
    ∃ d, v.toDouble? = some d ∧ 0 ≤ d.signed ∧ min d.floorAbs lengthLimit = n := by
  unfold length?
  split
  · rename_i d hd
    simp [hd]
  · rename_i hd
    simp [hd]

/-- Whether the value says nothing: null, a blank string or an empty array. -/
def isVacant : Value → Bool
  | null => true
  | string s => isBlankText s
  | array items => items.isEmpty
  | _ => false

end Value

namespace Constraint

/-! ## Breaches, kind by kind -/

/-- The value is below the least number. -/
def belowMin (value bound : Value) : Bool :=
  match value.toDouble?, bound.toDouble? with
  | some v, some b => v.lt b
  | _, _ => false

/-- The value is above the greatest number. -/
def aboveMax (value bound : Value) : Bool :=
  match value.toDouble?, bound.toDouble? with
  | some v, some b => b.lt v
  | _, _ => false

/-- The number of characters of a string and the length it is held against. -/
def lengths? (value bound : Value) : Option (Nat × Nat) := do
  return ((← value.text?).length, ← bound.length?)

/-- The string does not match the pattern, which is well formed. -/
def misses (value pattern : Value) : Bool :=
  match value.text?, pattern.text?.bind Pattern.compile? with
  | some s, some p => !p.isMatch s
  | _, _ => false

/-- The breach of a constraint of a kind, as a message. -/
def breach? (kind : ConstraintKind) (value argument : Value) : Option String :=
  match kind with
  | .min =>
    if belowMin value argument then some s!"must be at least {Json.compact argument}" else none
  | .max =>
    if aboveMax value argument then some s!"must be at most {Json.compact argument}" else none
  | .minLength => do
    let (actual, bound) ← lengths? value argument
    if actual < bound then some s!"length must be at least {bound}" else none
  | .maxLength => do
    let (actual, bound) ← lengths? value argument
    if bound < actual then some s!"length must be at most {bound}" else none
  | .pattern =>
    if misses value argument then
      some ("must match pattern " ++ argument.text?.getD "")
    else none
  | .notEmpty => if value.isVacant then some "must not be empty" else none
  | .oneOf => do
    let options := (← argument.items?).map Value.canonicalText
    if options.contains value.canonicalText then none
    else some ("must be one of [" ++ ", ".intercalate options ++ "]")
  | .refExists => none

/-! ## Violations -/

/-- The violation of a constraint by a value of a field. The constraint's own message stands in for
the general one. -/
def violation? (c : Constraint) (field : String) (value : Value) : Option Violation := do
  let kind ← c.kind?
  let message ← breach? kind value c.value
  return ⟨field, kind, c.message.getD message⟩

theorem violation?_of_kind {c : Constraint} {kind : ConstraintKind} (h : c.kind? = some kind)
    (field : String) (value : Value) : c.violation? field value =
      (breach? kind value c.value).map fun message => ⟨field, kind, c.message.getD message⟩ := by
  simp only [violation?, h, Option.bind_eq_bind, Option.bind_some]
  cases breach? kind value c.value <;> rfl

end Constraint

/-- The violations of a field's constraints by a value, in order. -/
def Field.violations (f : Field) (name : String) (value : Value) : List Violation :=
  f.constraints.filterMap (·.violation? name value)

end Registrar
