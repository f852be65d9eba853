import Registrar.Proofs.FieldRules

/-!
# Well-formed declarations

`Module.WellFormed` says what a declaration has to be like, part by part and without reference to
how it is checked; `Module.Breaks m p` says that `m` breaks the rule that the problem `p` is about.
As with fields, validation lists exactly the problems of the rules that are broken. So the valid
declarations are the well-formed ones, and a report leaves out no rule that is broken:
`Module.wellFormed_or_reported`.
-/

namespace Registrar

open Text

/-! ## Actions -/

/-- An input of an action is well formed under its name. -/
structure ActionInput.WellFormed (i : ActionInput) (m : Module) (name : String) : Prop where
  named : Naming.isIdentifier name = true
  field : ∀ field, i.field = some field → ∃ f, m.schema.get? field = some f
  typed : ∀ tag, i.type = some tag → ∃ type, FieldType.ofTag? tag = some type

/-- An action is well formed under its name. -/
structure Action.WellFormed (a : Action) (m : Module) (name : String) : Prop where
  named : Naming.isIdentifier name = true
  set : ∀ field v, a.set.get? field = some v → ∃ f, m.schema.get? field = some f
  inputs : ∀ input i, a.inputs.get? input = some i → i.WellFormed m input

/-- The rules for an input that can be broken. -/
inductive ActionInput.Breaks (i : ActionInput) (m : Module) (action name : String) : Problem → Prop
  | name (h : Naming.isIdentifier name = false) : i.Breaks m action name (.inputName action name)
  | field {field} (hf : i.field = some field) (h : m.schema.get? field = none) :
    i.Breaks m action name (.inputField action name field)
  | type {tag} (ht : i.type = some tag) (h : FieldType.ofTag? tag = none) :
    i.Breaks m action name (.inputType action name tag)

/-- The rules for an action that can be broken. -/
inductive Action.Breaks (a : Action) (m : Module) (name : String) : Problem → Prop
  | name (h : Naming.isIdentifier name = false) : a.Breaks m name (.actionName name)
  | set {field v} (hv : a.set.get? field = some v) (h : m.schema.get? field = none) :
    a.Breaks m name (.setField name field)
  | input {input i p} (hi : a.inputs.get? input = some i) (h : i.Breaks m name input p) :
    a.Breaks m name p

theorem ActionInput.mem_problems_iff {i : ActionInput} {m : Module} {action name : String}
    {p : Problem} : p ∈ i.problems m action name ↔ i.Breaks m action name p := by
  simp only [problems, List.mem_append, mem_demand_iff, List.mem_flatMap, Option.mem_toList,
    Dict.contains_eq_false_iff, Option.isSome_eq_false_iff, Option.isNone_iff_eq_none, or_assoc]
  constructor
  · rintro (⟨h, rfl⟩ | ⟨field, hf, h, rfl⟩ | ⟨tag, ht, h, rfl⟩)
    · exact .name h
    · exact .field hf h
    · exact .type ht h
  · intro h
    cases h with
    | name h => exact .inl ⟨h, rfl⟩
    | field hf h => exact .inr (.inl ⟨_, hf, h, rfl⟩)
    | type ht h => exact .inr (.inr ⟨_, ht, h, rfl⟩)

theorem ActionInput.wellFormed_iff {i : ActionInput} {m : Module} {action name : String} :
    i.WellFormed m name ↔ ∀ p, ¬ i.Breaks m action name p := by
  constructor
  · intro h p hp
    cases hp with
    | name hn => simp [h.named] at hn
    | field hf hn =>
      obtain ⟨f, hs⟩ := h.field _ hf
      simp [hs] at hn
    | type ht hn =>
      obtain ⟨type, hk⟩ := h.typed _ ht
      simp [hk] at hn
  · intro h
    constructor
    · exact by_contra fun hn => h _ (.name (by simpa using hn))
    · exact fun field hf => Option.ne_none_iff_exists'.1 fun hn => h _ (.field hf hn)
    · exact fun tag ht => Option.ne_none_iff_exists'.1 fun hn => h _ (.type ht hn)

theorem Dict.mem_entries_iff {α : Type} {d : Dict α} {k : String} {x : α} :
    (k, x) ∈ d.entries ↔ d.get? k = some x :=
  Dict.get?_eq_some_iff.symm

theorem Action.mem_problems_iff {a : Action} {m : Module} {name : String} {p : Problem} :
    p ∈ a.problems m name ↔ a.Breaks m name p := by
  simp only [problems, List.mem_append, mem_demand_iff, List.mem_flatMap, Dict.keys, List.mem_map,
    Dict.contains_eq_false_iff, Prod.exists, Dict.mem_entries_iff, ActionInput.mem_problems_iff,
    or_assoc]
  constructor
  · rintro (⟨h, rfl⟩ | ⟨_, ⟨field, v, hv, rfl⟩, h, rfl⟩ | ⟨input, i, hi, h⟩)
    · exact .name h
    · exact .set hv h
    · exact .input hi h
  · intro h
    cases h with
    | name h => exact .inl ⟨h, rfl⟩
    | set hv h => exact .inr (.inl ⟨_, ⟨_, _, hv, rfl⟩, h, rfl⟩)
    | input hi h => exact .inr (.inr ⟨_, _, hi, h⟩)

theorem Action.wellFormed_iff {a : Action} {m : Module} {name : String} :
    a.WellFormed m name ↔ ∀ p, ¬ a.Breaks m name p := by
  constructor
  · intro h p hp
    cases hp with
    | name hn => simp [h.named] at hn
    | set hv hn =>
      obtain ⟨f, hs⟩ := h.set _ _ hv
      simp [hs] at hn
    | input hi hb => exact ActionInput.wellFormed_iff.1 (h.inputs _ _ hi) _ hb
  · intro h
    constructor
    · exact by_contra fun hn => h _ (.name (by simpa using hn))
    · exact fun field v hv => Option.ne_none_iff_exists'.1 fun hn => h _ (.set hv hn)
    · exact fun input i hi => ActionInput.wellFormed_iff.2 fun p hp => h p (.input hi hp)

/-! ## Channels -/

/-- The path starts with a slash, after blanks perhaps. -/
def Absolute (path : String) : Prop := ∃ rest, (trim path).toList = '/' :: rest

/-- An endpoint is well formed. -/
structure Endpoint.WellFormed (e : Endpoint) (m : Module) : Prop where
  method : toUpper (trim e.method) ∈ httpMethods
  path : Absolute e.path
  action : e.action ∈ implicitActions ∨ ∃ a, m.actions.get? e.action = some a

/-- The channels are well formed, enabled or not. -/
structure Channels.WellFormed (c : Channels) (m : Module) : Prop where
  basePath : ∀ path, c.http.basePath = some path → Absolute path
  socketPath : ∀ path, c.websocket.path = some path → Absolute path
  hookPath : ∀ path, c.webhook.path = some path → Absolute path
  endpoints : ∀ e ∈ c.http.endpoints, e.WellFormed m
  command : ∀ command, c.cli.command = some command → isBlankText command = false
  service : ∀ service, c.grpc.service = some service → Naming.isIdentifier service = true

/-- The rules for an endpoint that can be broken. -/
inductive Endpoint.Breaks (e : Endpoint) (m : Module) : Problem → Prop
  | method (h : toUpper (trim e.method) ∉ httpMethods) : e.Breaks m (.endpointMethod e)
  | path (h : ¬ Absolute e.path) : e.Breaks m (.endpointPath e)
  | action (hi : e.action ∉ implicitActions) (h : m.actions.get? e.action = none) :
    e.Breaks m (.endpointAction e)

/-- The rules for channels that can be broken. -/
inductive Channels.Breaks (c : Channels) (m : Module) : Problem → Prop
  | basePath {path} (hp : c.http.basePath = some path) (h : ¬ Absolute path) :
    c.Breaks m (.relativePath "http base_path" path)
  | socketPath {path} (hp : c.websocket.path = some path) (h : ¬ Absolute path) :
    c.Breaks m (.relativePath "websocket path" path)
  | hookPath {path} (hp : c.webhook.path = some path) (h : ¬ Absolute path) :
    c.Breaks m (.relativePath "webhook path" path)
  | endpoint {e p} (he : e ∈ c.http.endpoints) (h : e.Breaks m p) : c.Breaks m p
  | command {command} (hc : c.cli.command = some command) (h : isBlankText command = true) :
    c.Breaks m .blankCommand
  | service {service} (hs : c.grpc.service = some service)
    (h : Naming.isIdentifier service = false) : c.Breaks m (.serviceName service)

theorem isAbsolute_iff {path : String} : isAbsolute path = true ↔ Absolute path := by
  simp [isAbsolute, Absolute, List.head?_eq_some_iff]

theorem isAbsolute_eq_false_iff {path : String} : isAbsolute path = false ↔ ¬ Absolute path := by
  rw [← isAbsolute_iff, Bool.not_eq_true]

theorem mem_pathProblems_iff {label : String} {path : Option String} {p : Problem} :
    p ∈ pathProblems label path ↔
      ∃ s, path = some s ∧ ¬ Absolute s ∧ p = .relativePath label s := by
  simp only [pathProblems, List.mem_flatMap, Option.mem_toList, mem_demand_iff,
    isAbsolute_eq_false_iff]

theorem Module.hasAction_eq_false_iff {m : Module} {name : String} : m.hasAction name = false ↔
    name ∉ implicitActions ∧ m.actions.get? name = none := by
  simp [hasAction, Dict.contains_eq_false_iff]

theorem Endpoint.mem_problems_iff {e : Endpoint} {m : Module} {p : Problem} :
    p ∈ e.problems m ↔ e.Breaks m p := by
  simp only [problems, List.mem_append, mem_demand_iff, isAbsolute_eq_false_iff,
    Module.hasAction_eq_false_iff, or_assoc]
  constructor
  · rintro (⟨h, rfl⟩ | ⟨h, rfl⟩ | ⟨⟨hi, h⟩, rfl⟩)
    · exact .method (by simpa using h)
    · exact .path h
    · exact .action hi h
  · intro h
    cases h with
    | method h => exact .inl ⟨by simpa using h, rfl⟩
    | path h => exact .inr (.inl ⟨h, rfl⟩)
    | action hi h => exact .inr (.inr ⟨⟨hi, h⟩, rfl⟩)

theorem Endpoint.wellFormed_iff {e : Endpoint} {m : Module} :
    e.WellFormed m ↔ ∀ p, ¬ e.Breaks m p := by
  constructor
  · intro h p hp
    cases hp with
    | method hn => exact hn h.method
    | path hn => exact hn h.path
    | action hi hn =>
      rcases h.action with hm | ⟨a, ha⟩
      · exact hi hm
      · simp [ha] at hn
  · intro h
    refine ⟨by_contra fun hn => h _ (.method hn), by_contra fun hn => h _ (.path hn), ?_⟩
    by_cases hi : e.action ∈ implicitActions
    · exact .inl hi
    · exact .inr (Option.ne_none_iff_exists'.1 fun hn => h _ (.action hi hn))

theorem Module.mem_channelProblems_iff {m : Module} {p : Problem} :
    p ∈ m.channelProblems ↔ m.channels.Breaks m p := by
  simp only [channelProblems, List.mem_append, mem_pathProblems_iff, List.mem_flatMap,
    Option.mem_toList, Endpoint.mem_problems_iff, mem_demand_iff, or_assoc, Bool.not_eq_false']
  constructor
  · rintro (⟨s, hs, h, rfl⟩ | ⟨s, hs, h, rfl⟩ | ⟨s, hs, h, rfl⟩ | ⟨e, he, h⟩ | ⟨s, hs, h, rfl⟩ |
      ⟨s, hs, h, rfl⟩)
    · exact .basePath hs h
    · exact .socketPath hs h
    · exact .hookPath hs h
    · exact .endpoint he h
    · exact .command hs h
    · exact .service hs h
  · intro h
    cases h with
    | basePath hs h => exact .inl ⟨_, hs, h, rfl⟩
    | socketPath hs h => exact .inr (.inl ⟨_, hs, h, rfl⟩)
    | hookPath hs h => exact .inr (.inr (.inl ⟨_, hs, h, rfl⟩))
    | endpoint he h => exact .inr (.inr (.inr (.inl ⟨_, he, h⟩)))
    | command hs h => exact .inr (.inr (.inr (.inr (.inl ⟨_, hs, h, rfl⟩))))
    | service hs h => exact .inr (.inr (.inr (.inr (.inr ⟨_, hs, h, rfl⟩))))

theorem Channels.wellFormed_iff {c : Channels} {m : Module} :
    c.WellFormed m ↔ ∀ p, ¬ c.Breaks m p := by
  constructor
  · intro h p hp
    cases hp with
    | basePath hs hn => exact hn (h.basePath _ hs)
    | socketPath hs hn => exact hn (h.socketPath _ hs)
    | hookPath hs hn => exact hn (h.hookPath _ hs)
    | endpoint he hb => exact Endpoint.wellFormed_iff.1 (h.endpoints _ he) _ hb
    | command hs hn => simp [h.command _ hs] at hn
    | service hs hn => simp [h.service _ hs] at hn
  · intro h
    constructor
    · exact fun path hs => by_contra fun hn => h _ (.basePath hs hn)
    · exact fun path hs => by_contra fun hn => h _ (.socketPath hs hn)
    · exact fun path hs => by_contra fun hn => h _ (.hookPath hs hn)
    · exact fun e he => Endpoint.wellFormed_iff.2 fun p hp => h p (.endpoint he hp)
    · exact fun s hs => by_contra fun hn => h _ (.command hs (by simpa using hn))
    · exact fun s hs => by_contra fun hn => h _ (.service hs (by simpa using hn))

/-! ## Modules -/

namespace Module

/-- The declaration is well identified: a capability by its name, and perhaps by that of a module;
any other module by its name, and it has fields. -/
def Identified (m : Module) : Prop :=
  match m.capability with
  | some capability => Naming.isIdentifier (trim capability) = true ∧
      (m.name = "" ∨ Naming.isIdentifier m.name = true)
  | none => Naming.isIdentifier m.name = true ∧ ∃ name f, m.schema.get? name = some f

/-- The declaration is well formed. -/
structure WellFormed (m : Module) : Prop where
  identified : m.Identified
  fields : ∀ name f, m.schema.get? name = some f → f.WellFormed name
  actions : ∀ name a, m.actions.get? name = some a → a.WellFormed m name
  channels : m.channels.WellFormed m

/-- The rules for the identity of a declaration that can be broken. -/
inductive Misidentified (m : Module) : Problem → Prop
  | noCapability {capability} (hc : m.capability = some capability)
    (h : isBlankText capability = true) : m.Misidentified .capabilityMissing
  | capability {capability} (hc : m.capability = some capability)
    (hb : isBlankText capability = false) (h : Naming.isIdentifier (trim capability) = false) :
    m.Misidentified (.capabilityName (trim capability))
  | noName (hc : m.capability = none) (h : m.name = "") : m.Misidentified .moduleMissing
  | name (hn : m.name ≠ "") (h : Naming.isIdentifier m.name = false) :
    m.Misidentified (.moduleName m.name)
  | noFields (hc : m.capability = none) (h : ∀ name, m.schema.get? name = none) :
    m.Misidentified .noFields

/-- The rules for a declaration that can be broken, each with the problem that tells of it. -/
inductive Breaks (m : Module) : Problem → Prop
  | identity {p} (h : m.Misidentified p) : m.Breaks p
  | field {name f p} (hf : m.schema.get? name = some f) (h : f.Breaks name p) : m.Breaks p
  | action {name a p} (ha : m.actions.get? name = some a) (h : a.Breaks m name p) : m.Breaks p
  | channels {p} (h : m.channels.Breaks m p) : m.Breaks p

variable {m : Module} {p : Problem}

theorem isIdentifier_empty : Naming.isIdentifier "" = false := rfl

theorem schema_isEmpty_iff : m.schema.isEmpty = true ↔ ∀ name, m.schema.get? name = none := by
  rw [← Bool.not_eq_false, Dict.isEmpty_eq_false_iff]
  simp [Option.eq_none_iff_forall_ne_some]

theorem mem_identityProblems_iff : p ∈ m.identityProblems ↔ m.Misidentified p := by
  unfold identityProblems
  constructor
  · intro h
    split at h
    · rename_i c hc
      simp only [List.mem_append, trim_eq_empty_iff, mem_demand_iff, Bool.or_eq_false_iff,
        decide_eq_false_iff_not] at h
      rcases h with h | ⟨⟨hn, hi⟩, rfl⟩
      · split at h
        · rename_i hb
          rw [List.mem_singleton] at h
          exact h ▸ .noCapability hc hb
        · rename_i hb
          obtain ⟨hi, rfl⟩ := mem_demand_iff.1 h
          exact .capability hc (by simpa using hb) hi
      · exact .name hn hi
    · rename_i hc
      simp only [List.mem_append, mem_demand_iff, Bool.not_eq_false', schema_isEmpty_iff] at h
      rcases h with h | ⟨hs, rfl⟩
      · split at h
        · rename_i hn
          rw [List.mem_singleton] at h
          exact h ▸ .noName hc hn
        · rename_i hn
          obtain ⟨hi, rfl⟩ := mem_demand_iff.1 h
          exact .name hn hi
      · exact .noFields hc hs
  · intro h
    cases h with
    | noCapability hc h => simp [hc, trim_eq_empty_iff, h]
    | capability hc hb h => simp [hc, trim_eq_empty_iff, hb, mem_demand_iff, h]
    | noName hc h => simp [hc, h]
    | name hn h => cases m.capability <;> simp [hn, mem_demand_iff, h]
    | noFields hc h => simp [hc, mem_demand_iff, schema_isEmpty_iff, h]

theorem identified_iff : m.Identified ↔ ∀ p, ¬ m.Misidentified p := by
  unfold Identified
  constructor
  · intro h p hp
    cases hp with
    | noCapability hc hb =>
      -- a blank name is no identifier
      simp [hc, trim_eq_empty_iff.2 hb, isIdentifier_empty] at h
    | capability hc hb hi => simp [hc, hi] at h
    | noName hc hn => simp [hc, hn, isIdentifier_empty] at h
    | name hn hi => cases hc : m.capability <;> simp [hc, hn, hi] at h
    | noFields hc hs => simp [hc, hs] at h
  · intro h
    have hname : m.name = "" ∨ Naming.isIdentifier m.name = true := by
      by_contra hn
      rw [not_or, Bool.not_eq_true] at hn
      exact h _ (.name hn.1 hn.2)
    split
    · rename_i c hc
      have hb : isBlankText c = false := by
        by_contra hb
        exact h _ (.noCapability hc (by simpa using hb))
      refine ⟨?_, hname⟩
      by_contra hi
      exact h _ (.capability hc hb (by simpa using hi))
    · rename_i hc
      refine ⟨hname.resolve_left fun hn => h _ (.noName hc hn), ?_⟩
      by_contra hs
      refine h _ (.noFields hc fun name => Option.eq_none_iff_forall_ne_some.2 fun f hf => ?_)
      exact hs ⟨name, f, hf⟩

/-- The problems of a declaration tell exactly of the rules that it breaks. -/
theorem mem_problems_iff : p ∈ m.problems ↔ m.Breaks p := by
  simp only [problems, List.mem_append, mem_identityProblems_iff, List.mem_flatMap, Prod.exists,
    Dict.mem_entries_iff, Field.mem_problems_iff, Action.mem_problems_iff, mem_channelProblems_iff,
    or_assoc]
  constructor
  · rintro (h | ⟨name, f, hf, h⟩ | ⟨name, a, ha, h⟩ | h)
    · exact .identity h
    · exact .field hf h
    · exact .action ha h
    · exact .channels h
  · intro h
    cases h with
    | identity h => exact .inl h
    | field hf h => exact .inr (.inl ⟨_, _, hf, h⟩)
    | action ha h => exact .inr (.inr (.inl ⟨_, _, ha, h⟩))
    | channels h => exact .inr (.inr (.inr h))

theorem wellFormed_iff : m.WellFormed ↔ ∀ p, ¬ m.Breaks p := by
  constructor
  · intro h p hp
    cases hp with
    | identity hb => exact identified_iff.1 h.identified p hb
    | field hf hb => exact Field.wellFormed_iff.1 (h.fields _ _ hf) p hb
    | action ha hb => exact Action.wellFormed_iff.1 (h.actions _ _ ha) p hb
    | channels hb => exact Channels.wellFormed_iff.1 h.channels p hb
  · intro h
    constructor
    · exact identified_iff.2 fun p hp => h p (.identity hp)
    · exact fun name f hf => Field.wellFormed_iff.2 fun p hp => h p (.field hf hp)
    · exact fun name a ha => Action.wellFormed_iff.2 fun p hp => h p (.action ha hp)
    · exact Channels.wellFormed_iff.2 fun p hp => h p (.channels hp)

/-- A declaration is valid exactly if it is well formed. Otherwise there is a report on it, which
has one message for each problem, in the order of the problems. These are about the rules that are
broken: there is a message about each of them, and no other message. -/
theorem wellFormed_or_reported (m : Module) :
    (m.report? = none ↔ m.WellFormed) ∧
    (¬ m.WellFormed ↔ ∃ r, m.report? = some r ∧ r.module = m.displayName ∧
      r.errors = m.problems.map (·.message) ∧
      ∀ e, e ∈ r.errors ↔ ∃ p, m.Breaks p ∧ p.message = e) ∧
    ∀ p, p ∈ m.problems ↔ m.Breaks p := by
  have hvalid : m.report? = none ↔ m.WellFormed := by
    rw [report?_eq_none_iff, wellFormed_iff, List.eq_nil_iff_forall_not_mem]
    exact forall_congr' fun p => not_congr mem_problems_iff
  refine ⟨hvalid, ?_, fun p => mem_problems_iff⟩
  rw [← hvalid]
  constructor
  · intro h
    obtain ⟨r, hr⟩ := Option.ne_none_iff_exists'.1 h
    obtain ⟨-, he⟩ := Option.ite_none_left_eq_some.1 hr
    cases he
    refine ⟨_, hr, rfl, rfl, fun e => ?_⟩
    simp only [List.mem_map, mem_problems_iff]
  · rintro ⟨r, hr, -⟩
    simp [hr]

end Module

end Registrar
