import Registrar.Command.Report
import Registrar.Proofs.Yields
import Mathlib.Data.List.Forall2

/-!
# Reports are read back

The report of `check` is printed as a JSON document on lines of its own. `CheckReport.Shown r v`
says member by member what the value `v` tells of the report `r`, and `CheckReport.Printed r text`
that the text is read as such a value. Reports nest few containers (`CheckReport.fits_toValue`), so
what is printed is read back: `CheckReport.printed_pretty`.
-/

namespace Registrar

/-! ## What values tell -/

/-- The value tells of an owner. -/
structure Owner.Shown (o : Owner) (v : Value) : Prop where
  module : v.member? "module" = some (.string o.module)
  action : v.member? "action" = some (.string o.action)

/-- The value tells of a conflict: the address, and whose it is and was to be. -/
structure Conflict.Shown (c : Conflict) (v : Value) : Prop where
  transport : v.member? "path_type" = some (.string c.transport.tag)
  path : v.member? "path" = some (.string c.path)
  key : v.member? "key" = some (.string c.key)
  method : v.member? "method" = c.method.map .string
  existing : ∃ o, v.member? "existing" = some o ∧ c.existing.Shown o
  incoming : ∃ o, v.member? "incoming" = some o ∧ c.incoming.Shown o

/-- The value tells of a file that was not admitted: which one, why, and the conflicts of its module
if that was refused. -/
structure Failure.Shown (f : Failure) (v : Value) : Prop where
  file : v.member? "file" = some (.string f.path)
  code : v.member? "code" = some (.string f.error.code.name)
  error : v.member? "error" = some (.string f.error.message)
  unrefused : f.error.conflicts? = none → v.member? "conflicts" = none
  conflicts : ∀ l, f.error.conflicts? = some l →
    ∃ vs, v.member? "conflicts" = some (.array vs) ∧ List.Forall₂ Conflict.Shown l vs

/-- The value tells of what came of registering files: the names, the number of claims as a word of
64 bits, and the failures in order. -/
structure CheckReport.Shown (r : CheckReport) (v : Value) : Prop where
  registered : v.member? "registered" = some (.array (r.registered.map .string))
  claims : ∃ h, v.member? "claims" =
    some (.number (.int (r.claims % 0x10000000000000000 : Nat) h))
  failures : ∃ vs, v.member? "failures" = some (.array vs) ∧
    List.Forall₂ Failure.Shown r.failures vs

/-- The text is a JSON document that tells of what came of registering files. -/
def CheckReport.Printed (r : CheckReport) (text : String) : Prop :=
  ∃ v, Json.read Json.readValue text = .ok v ∧ r.Shown v

/-! ## What reports tell -/

theorem Value.member?_ofMembers (ms : List (String × Value)) (k : String) :
    (ofMembers ms).member? k = ms.reverse.lookup k :=
  Dict.get?_ofList ms k

theorem forall₂_map {α β : Type} {R : α → β → Prop} {f : α → β} (h : ∀ a, R a (f a)) (l : List α) :
    List.Forall₂ R l (l.map f) :=
  List.forall₂_map_right_iff.2 (List.forall₂_same.2 fun a _ => h a)

theorem Owner.shown_toValue (o : Owner) : o.Shown o.toValue := by
  constructor <;> simp [toValue, Value.member?_ofMembers, Dict.lookup_cons_ite]

theorem Conflict.shown_toValue (c : Conflict) : c.Shown c.toValue := by
  cases hm : c.method
  all_goals
    refine ⟨?_, ?_, ?_, ?_, ⟨_, ?_, c.existing.shown_toValue⟩, ⟨_, ?_, c.incoming.shown_toValue⟩⟩
    all_goals simp [toValue, Value.member?_ofMembers, Dict.lookup_cons_ite, hm]

theorem Failure.shown_toValue (f : Failure) : f.Shown f.toValue := by
  constructor
  case conflicts =>
    intro l hl
    refine ⟨l.map Conflict.toValue, ?_, forall₂_map Conflict.shown_toValue l⟩
    simp [toValue, Value.member?_ofMembers, hl]
  all_goals
    cases hl : f.error.conflicts?
    all_goals simp [toValue, Value.member?_ofMembers, Dict.lookup_cons_ite, hl]

theorem CheckReport.shown_toValue (r : CheckReport) : r.Shown r.toValue where
  registered := by simp [toValue, Value.member?_ofMembers, Dict.lookup_cons_ite]
  claims := ⟨.mod r.claims, by
    simp [toValue, Value.member?_ofMembers, Dict.lookup_cons_ite, Number.ofCount]⟩
  failures := ⟨_, by simp [toValue, Value.member?_ofMembers], forall₂_map Failure.shown_toValue _⟩

/-- The files of the failures are named in order. -/
theorem CheckReport.Shown.files {r : CheckReport} {v : Value} (h : r.Shown v) :
    ∃ vs, v.member? "failures" = some (.array vs) ∧
      vs.map (·.member? "file") = r.failures.map fun f => some (.string f.path) := by
  obtain ⟨vs, hvs, hall⟩ := h.failures
  refine ⟨vs, hvs, ?_⟩
  clear hvs
  generalize r.failures = fs at hall
  induction hall with
  | nil => rfl
  | cons hf _ ih => rw [List.map_cons, List.map_cons, hf.file, ih]

/-! ## How reports nest -/

theorem Owner.fits_toValue (o : Owner) : o.toValue.Fits 1 := by
  refine Value.fits_ofMembers ?_
  simp only [List.forall_mem_cons]
  exact ⟨Value.fits_string _ _, Value.fits_string _ _, List.forall_mem_nil _⟩

theorem Conflict.fits_toValue (c : Conflict) : c.toValue.Fits 2 := by
  refine Value.fits_ofMembers (List.forall_mem_append.2 ⟨?_, ?_⟩)
  · simp only [List.forall_mem_cons]
    exact ⟨Value.fits_string _ _, Value.fits_string _ _, Value.fits_string _ _,
      c.existing.fits_toValue, c.incoming.fits_toValue, List.forall_mem_nil _⟩
  · cases c.method with
    | none => exact List.forall_mem_nil _
    | some method => exact List.forall_mem_singleton.2 (Value.fits_string _ _)

theorem Failure.fits_toValue (f : Failure) : f.toValue.Fits 4 := by
  refine Value.fits_ofMembers (List.forall_mem_append.2 ⟨?_, ?_⟩)
  · simp only [List.forall_mem_cons]
    exact ⟨Value.fits_string _ _, Value.fits_string _ _, Value.fits_string _ _,
      List.forall_mem_nil _⟩
  · cases f.error.conflicts? with
    | none => exact List.forall_mem_nil _
    | some l =>
      exact List.forall_mem_singleton.2
        (Value.fits_array (List.forall_mem_map.2 fun c _ => c.fits_toValue))

theorem CheckReport.fits_toValue (r : CheckReport) : r.toValue.Fits 6 := by
  have hnames : (Value.array (r.registered.map .string)).Fits 5 :=
    Value.fits_array (List.forall_mem_map.2 fun s _ => Value.fits_string _ s)
  have hfailures : (Value.array (r.failures.map Failure.toValue)).Fits 5 :=
    Value.fits_array (List.forall_mem_map.2 fun f _ => f.fits_toValue)
  refine Value.fits_ofMembers ?_
  simp only [List.forall_mem_cons]
  exact ⟨hnames, ⟨trivial, Nat.zero_le _⟩, hfailures, List.forall_mem_nil _⟩

/-! ## What is printed -/

/-- A value that is printed on lines of its own is read back. -/
theorem Json.read_pretty_line {v : Value} (h : v.Fits (depthLimit - 1)) :
    read readValue (pretty v ++ "\n") = .ok v := by
  have hread : Reads (readValue depthLimit) (prettyChars 0 v) v :=
    reads_value v 0 depthLimit h.1 (Nat.lt_of_le_of_lt h.2 (by decide))
  have hbreak : ∀ c ∈ ['\n'], Cursor.isSpace c = true := List.forall_mem_singleton.2 rfl
  rw [← read_append hread hbreak, String.ofList_append]
  rfl

/-- What is printed of a report tells of it. -/
theorem CheckReport.printed_pretty (r : CheckReport) :
    r.Printed (Json.pretty r.toValue ++ "\n") :=
  ⟨_, Json.read_pretty_line (r.fits_toValue.mono (by decide)), r.shown_toValue⟩

end Registrar
