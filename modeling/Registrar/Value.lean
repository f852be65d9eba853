import Registrar.Dict
import Registrar.Number.Shortest

/-!
# Values

The dynamically typed values of documents: field defaults, arguments of constraints, values that
actions set. A number is an integer of 64 bits, signed or not, or a double; `1` and `1.0` are
different values. A value that a document gives has its members ordered by key (`Value.ofMembers`);
a value built to be printed may list them in any order.
-/

namespace Registrar

/-! ## Numbers -/

/-- Whether 64 bits hold the integer, with or without a sign: it is at least `-2 ^ 63` and below
`2 ^ 64`. -/
def IsWord (i : Int) : Prop := -0x8000000000000000 ≤ i ∧ i < 0x10000000000000000

instance (i : Int) : Decidable (IsWord i) := by unfold IsWord; infer_instance

theorem IsWord.natAbs_lt {i : Int} (h : IsWord i) : i.natAbs < 1 <<< 65 := by
  unfold IsWord at h; omega

theorem IsWord.mod (n : Nat) : IsWord (n % 0x10000000000000000 : Nat) := by
  unfold IsWord; omega

/-- An integer that 64 bits hold, or a double. -/
inductive Number
  | int (i : Int) (h : IsWord i)
  | double (d : Binary64)
  deriving DecidableEq

namespace Number

/-- The number as a double: the nearest one, where it is an integer. -/
def toDouble : Number → Binary64
  | int i h => .ofInt i h.natAbs_lt
  | double d => d

/-- Whether the number is an integer, in either form. -/
def isIntegral : Number → Bool
  | int _ _ => true
  | double d => d.isIntegral

/-- The text of the number, where doubles are laid out as given. -/
def text (layout : Binary64.Layout) : Number → String
  | int i _ => toString i
  | double d => d.text layout

/-- The number `± digits * 10 ^ exponent`. It is an integer where it is written as one (`whole`),
fits 64 bits and is not a negative zero; a finite double otherwise. -/
def ofDecimal? (negative : Bool) (digits : Nat) (exponent : Int) (whole : Bool) : Option Number :=
  let i : Int := if negative then -(digits : Int) else digits
  if h : IsWord i ∧ whole = true ∧ ¬ (negative = true ∧ digits = 0) then some (.int i h.1)
  else (Binary64.ofDecimal? negative digits exponent).map .double

/-- A natural number of 64 bits. -/
def ofNat? (n : Nat) : Option Number := ofDecimal? false n 0 true

/-- A count, as a word of 64 bits without a sign. -/
def ofCount (n : Nat) : Number := .int (n % 0x10000000000000000 : Nat) (.mod n)

end Number

/-! ## Values -/

/-- A document value. -/
inductive Value
  | null
  | bool (b : Bool)
  | number (n : Number)
  | string (s : String)
  | array (items : List Value)
  | object (members : List (String × Value))
  deriving Inhabited

namespace Value

mutual

/-- Equality of values is decidable. -/
def decEq : (a b : Value) → Decidable (a = b)
  | null, null => isTrue rfl
  | bool a, bool b => decidable_of_iff (a = b) (by simp)
  | number a, number b => decidable_of_iff (a = b) (by simp)
  | string a, string b => decidable_of_iff (a = b) (by simp)
  | array a, array b => @decidable_of_iff _ (a = b) (by simp) (decEqItems a b)
  | object a, object b => @decidable_of_iff _ (a = b) (by simp) (decEqMembers a b)
  | null, bool _ | null, number _ | null, string _ | null, array _ | null, object _
  | bool _, null | bool _, number _ | bool _, string _ | bool _, array _ | bool _, object _
  | number _, null | number _, bool _ | number _, string _ | number _, array _
  | number _, object _ | string _, null | string _, bool _ | string _, number _
  | string _, array _ | string _, object _ | array _, null | array _, bool _
  | array _, number _ | array _, string _ | array _, object _ | object _, null
  | object _, bool _ | object _, number _ | object _, string _ | object _, array _ =>
    isFalse nofun

/-- Equality of lists of values is decidable. -/
def decEqItems : (a b : List Value) → Decidable (a = b)
  | [], [] => isTrue rfl
  | [], _ :: _ | _ :: _, [] => isFalse nofun
  | a :: as, b :: bs =>
    @decidable_of_iff _ (a = b ∧ as = bs) (by simp)
      (@instDecidableAnd _ _ (decEq a b) (decEqItems as bs))

/-- Equality of lists of members is decidable. -/
def decEqMembers : (a b : List (String × Value)) → Decidable (a = b)
  | [], [] => isTrue rfl
  | [], _ :: _ | _ :: _, [] => isFalse nofun
  | (k, a) :: as, (l, b) :: bs =>
    @decidable_of_iff _ (k = l ∧ a = b ∧ as = bs) (by simp [and_assoc])
      (@instDecidableAnd _ _ inferInstance
        (@instDecidableAnd _ _ (decEq a b) (decEqMembers as bs)))

end

instance : DecidableEq Value := decEq

/-- The object with the given members, ordered by key; of two with one key the later one counts. -/
def ofMembers (members : List (String × Value)) : Value := object (Dict.ofList members).entries

/-- The object with the entries of a dictionary. -/
def ofDict (d : Dict Value) : Value := object d.entries

/-- The member of an object under a key. -/
def member? : Value → String → Option Value
  | object members, k => members.lookup k
  | _, _ => none

/-- What kind of value it is, in the words of messages. -/
def kindName : Value → String
  | null => "null"
  | bool _ => "boolean"
  | number _ => "number"
  | string _ => "string"
  | array _ => "array"
  | object _ => "object"

/-- The number, if it is one, as a double. -/
def toDouble? : Value → Option Binary64
  | number n => some n.toDouble
  | _ => none

/-- Whether the value is a number without a fractional part. -/
def isIntegral : Value → Bool
  | number n => n.isIntegral
  | _ => false

/-- The text of the value, if it is a string. -/
def text? : Value → Option String
  | string s => some s
  | _ => none

/-- The items of the value, if it is an array. -/
def items? : Value → Option (List Value)
  | array xs => some xs
  | _ => none

end Value

end Registrar
