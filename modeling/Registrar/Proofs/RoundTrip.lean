import Registrar.Proofs.Yields

/-!
# Declarations survive JSON

A declaration is printed in as many nested containers as its values need at their place, so one that
`Fits` in some containers is printed within them (`depth_ofModule`). As whatever is read fits, it is
printed within the limit of nesting, its values are ordered and no default is null, which is all
that the reading of a printed declaration asks for.
-/

namespace Registrar

namespace Document

section Depth

variable {m : Type → Type} {α β : Type} {n : Nat}

/-! ## How deep a record is nested -/

/-- What is written of the member nests at most `n` containers. -/
def Shallow (n : Nat) (a : α) (slot : Slot m α) : Prop := ∀ v ∈ slot.write a, v.depth ≤ n

@[simp] theorem shallow_alsoNamed {slot : Slot m α} {a : α} {names : List String} :
    Shallow n a (slot.alsoNamed names) ↔ Shallow n a slot :=
  .rfl

variable [Form m] {name : String} {c : Codec m β} {a : α}

@[simp] theorem depth_text (s : String) : ((Codec.text : Codec m String).write s).depth = 0 := rfl

@[simp] theorem depth_flag (b : Bool) : ((Codec.flag : Codec m Bool).write b).depth = 0 := rfl

@[simp] theorem depth_value (v : Value) :
    ((Codec.value : Codec m Value).write v).depth = v.depth := rfl

@[simp] theorem depth_list_le_iff {l : List β} :
    (c.list.write l).depth ≤ n + 1 ↔ ∀ x ∈ l, (c.write x).depth ≤ n := by
  simp [Codec.list, Value.depth, Value.depthItems_le_iff]

@[simp] theorem depth_dict_le_iff {d : Dict β} :
    (c.dict.write d).depth ≤ n + 1 ↔ ∀ e ∈ d.entries, (c.write e.2).depth ≤ n := by
  simp only [Codec.dict, Value.ofDict, Dict.map, Value.depth, Nat.add_le_add_iff_right,
    Value.depthMembers_le_iff, List.forall_mem_map]

theorem depth_record_le_iff {s : Shape m α} {a : α} :
    ((Codec.record s).write a).depth ≤ n + 1 ↔ ∀ slot ∈ s.slots, Shallow n a slot := by
  simp only [Codec.record, Shape.write, Value.depth, Nat.add_le_add_iff_right,
    Value.depthMembers_le_iff, List.mem_filterMap, Option.map_eq_some_iff]
  constructor
  · intro h slot hslot v hv
    exact h (slot.name, v) ⟨slot, hslot, v, hv, rfl⟩
  · rintro h _ ⟨slot, hslot, v, hv, rfl⟩
    exact h slot hslot v hv

@[simp] theorem shallow_required {get : α → β} {put : α → β → α} :
    Shallow n a (Codec.required name c get put) ↔ (c.write (get a)).depth ≤ n := by
  simp [Shallow, Codec.required]

@[simp] theorem shallow_always {get : α → β} {put : α → β → α} :
    Shallow n a (Codec.always name c get put) ↔ (c.write (get a)).depth ≤ n := by
  simp [Shallow, Codec.always]

@[simp] theorem shallow_optional {get : α → Option β} {put : α → Option β → α} :
    Shallow n a (Codec.optional name c get put) ↔ ∀ x ∈ get a, (c.write x).depth ≤ n := by
  simp [Shallow, Codec.optional]

@[simp] theorem shallow_unlessEmpty {get : α → List β} {put : α → List β → α} :
    Shallow (n + 1) a (Codec.unlessEmpty name c get put) ↔ ∀ x ∈ get a, (c.write x).depth ≤ n := by
  cases h : get a <;> simp [Shallow, Codec.unlessEmpty, h]

/-! ## How deep a declaration is nested -/

theorem depth_constraint {c : Constraint} (h : c.Fits (n + 1)) :
    ((Codec.record Shapes.constraint : Codec m Constraint).write c).depth ≤ n + 1 := by
  rw [depth_record_le_iff]
  have hvalue : c.value.depth ≤ n := h.2
  simpa [Shapes.constraint] using hvalue

theorem depth_field {f : Field} (h : f.Fits (n + 3)) :
    ((Codec.record Shapes.field : Codec m Field).write f).depth ≤ n + 3 := by
  rw [depth_record_le_iff]
  have hdefault : ∀ v, f.default = some v → v.depth ≤ n + 2 := fun v hv => (h.1 v hv).2.2
  have hconstraints : ∀ c ∈ f.constraints,
      ((Codec.record Shapes.constraint : Codec m Constraint).write c).depth ≤ n + 1 :=
    fun c hc => depth_constraint (h.2 c hc)
  simpa [Shapes.field] using ⟨hdefault, hconstraints⟩

theorem depth_actionInput {i : ActionInput} (h : i.Fits (n + 1)) :
    ((Codec.record Shapes.actionInput : Codec m ActionInput).write i).depth ≤ n + 1 := by
  rw [depth_record_le_iff]
  have hdefault : ∀ v, i.default = some v → v.depth ≤ n := fun v hv => (h v hv).2.2
  simpa [Shapes.actionInput] using hdefault

theorem depth_action {a : Action} (h : a.Fits (n + 3)) :
    ((Codec.record Shapes.action : Codec m Action).write a).depth ≤ n + 3 := by
  rw [depth_record_le_iff]
  have hset : ∀ k v, (k, v) ∈ a.set.entries → v.depth ≤ n + 1 := fun k v he => (h.1 (k, v) he).2
  have hinputs : ∀ k i, (k, i) ∈ a.inputs.entries →
      ((Codec.record Shapes.actionInput : Codec m ActionInput).write i).depth ≤ n + 1 :=
    fun k i he => depth_actionInput (h.2 (k, i) he)
  simpa [Shapes.action] using ⟨hset, hinputs⟩

theorem depth_channels (c : Channels) :
    ((Codec.record Shapes.channels : Codec m Channels).write c).depth ≤ n + 4 := by
  rw [depth_record_le_iff]
  simp [Shapes.channels, Shapes.httpChannel, Shapes.endpoint, Shapes.cliChannel, Shapes.ttyChannel,
    Shapes.socketChannel, Shapes.webhookChannel, Shapes.grpcChannel, depth_record_le_iff]

theorem depth_about (a : About) :
    ((Codec.record Shapes.about : Codec m About).write a).depth ≤ n + 2 := by
  rw [depth_record_le_iff]
  simp [Shapes.about]

end Depth

/-- A declaration that fits in some containers is printed in as many. -/
theorem depth_ofModule {m : Module} {n : Nat} (h : m.Fits (n + 5)) :
    (ofModule m).depth ≤ n + 5 := by
  refine depth_record_le_iff.2 ?_
  have hschema : ∀ k f, (k, f) ∈ m.schema.entries →
      ((Codec.record Shapes.field : Codec Scan Field).write f).depth ≤ n + 3 :=
    fun k f he => depth_field (h.1 (k, f) he)
  have hactions : ∀ k a, (k, a) ∈ m.actions.entries →
      ((Codec.record Shapes.action : Codec Scan Action).write a).depth ≤ n + 3 :=
    fun k a he => depth_action (h.2 (k, a) he)
  simpa [Shapes.module] using ⟨hschema, hactions, depth_channels m.channels, depth_about m.about⟩

/-! ## Printing and reading -/

theorem depth_of_parse {file : Option String} {text : String} {m : Module}
    (h : parse .json file text = .ok m) : (ofModule m).depth < Json.depthLimit :=
  Nat.lt_succ_of_le (depth_ofModule (n := 122) (fits_of_parse h))

/-- A declaration is the one that is read from its JSON text just if its values are ordered, it
stays within the limit of nesting and no default is null. All of this holds of a declaration that is
read from JSON text, whatever the text, so printing and reading it again gives the same one. -/
theorem parse_print_json (file : Option String) :
    (∀ m : Module, parse .json file (print .json m) = .ok m ↔
      m.Ordered ∧ (ofModule m).depth < Json.depthLimit ∧ m.NoNullDefaults) ∧
    ∀ text m, parse .json file text = .ok m → parse .json file (print .json m) = .ok m := by
  have hstable {m : Module} (ho : m.Ordered) (hd : (ofModule m).depth < Json.depthLimit)
      (hn : m.NoNullDefaults) : parse .json file (print .json m) = .ok m := by
    rw [parse_print ho hd, Module.withoutNull_eq_self hn]
  constructor
  · refine fun m => ⟨fun h => ?_, fun ⟨ho, hd, hn⟩ => hstable ho hd hn⟩
    exact ⟨(fits_of_parse h).ordered, depth_of_parse h, (fits_of_parse h).noNullDefaults⟩
  · intro text m h
    exact hstable (fits_of_parse h).ordered (depth_of_parse h) (fits_of_parse h).noNullDefaults

/-- A declaration with a default, a constraint without a value, and members of other names. -/
def noteModule : Module where
  name := "note"
  schema := .ofList [
    ("owner", { type := "ref", target := some "person" }),
    ("tags", {
      type := "json"
      default := some (.object [("all", .array []), ("own", .array [.null])])
      constraints := [{ type := "nonempty" }] })]
  channels := { websocket := { enabled := true } }

/-- A text of `noteModule`, in an order and with names that it is not printed with. -/
def noteText : String :=
  "\x7b\"channels\": \x7b\"ws\": \x7b\"enabled\": true\x7d\x7d, " ++
  "\"schema\": \x7b\"tags\": \x7b\"default\": \x7b\"own\": [null], \"all\": []\x7d, " ++
  "\"constraints\": [[\"nonempty\"]], \"type\": \"json\"\x7d, " ++
  "\"owner\": \x7b\"type\": \"ref\", \"default\": null, \"ref\": \"person\"\x7d\x7d, " ++
  "\"module\": \"note\"\x7d"

/-- `noteModule` with a default that is null. -/
def draftModule : Module := { noteModule with
  schema := noteModule.schema.insert "owner" { type := "ref", default := some .null } }

/-- What was read survives, and a null default does not. -/
theorem noteModule_survives :
    parse .json none noteText = .ok noteModule ∧
      parse .json none (print .json noteModule) = .ok noteModule ∧
      parse .json none (print .json draftModule) ≠ .ok draftModule := by
  have hread : parse .json none noteText = .ok noteModule := by decide +kernel
  have hlost : draftModule.withoutNull ≠ draftModule := by decide +kernel
  refine ⟨hread, (parse_print_json none).2 _ _ hread, fun h => hlost ?_⟩
  exact Module.withoutNull_eq_self (((parse_print_json none).1 _).1 h).2.2

end Document

end Registrar
