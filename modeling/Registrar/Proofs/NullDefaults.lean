import Registrar.Document
import Registrar.Proofs.Records

/-!
# Null defaults are lost in documents

A default that is null is written as such and read as no default. Nothing else of a declaration is
lost in JSON: what is printed of `m` is read as `m.withoutNull` (`restores_module`), for a
declaration whose values are ordered. Each shape has a lemma, which goes through its members in
order; only shapes with defaults restore less than they were given.
-/

namespace Registrar

/-! ## Declarations with their values in order -/

/-- The values of a field are ordered. -/
def Field.Ordered (f : Field) : Prop :=
  (∀ v ∈ f.default, v.Ordered) ∧ ∀ c ∈ f.constraints, c.value.Ordered

/-- The values of an action are ordered. -/
def Action.Ordered (a : Action) : Prop :=
  (∀ e ∈ a.set.entries, e.2.Ordered) ∧ ∀ e ∈ a.inputs.entries, ∀ v ∈ e.2.default, v.Ordered

/-- Every object in a value of the declaration is a map: it lists its members by key, without
repetition. `Value` by itself allows any list of members, for what is printed in another order. -/
def Module.Ordered (m : Module) : Prop :=
  (∀ e ∈ m.schema.entries, e.2.Ordered) ∧ ∀ e ∈ m.actions.entries, e.2.Ordered

/-! ## Declarations without null defaults -/

/-- The field without its default, where that is null. -/
def Field.withoutNull (f : Field) : Field := { f with default := f.default.filter (· ≠ .null) }

/-- The input without its default, where that is null. -/
def ActionInput.withoutNull (i : ActionInput) : ActionInput :=
  { i with default := i.default.filter (· ≠ .null) }

/-- The action without the null defaults of its inputs. -/
def Action.withoutNull (a : Action) : Action :=
  { a with inputs := a.inputs.map ActionInput.withoutNull }

/-- The declaration without its null defaults. -/
def Module.withoutNull (m : Module) : Module :=
  { m with
    schema := m.schema.map Field.withoutNull
    actions := m.actions.map Action.withoutNull }

/-- No field and no input of an action has null as its default. -/
def Module.NoNullDefaults (m : Module) : Prop :=
  (∀ e ∈ m.schema.entries, e.2.default ≠ some .null) ∧
    ∀ e ∈ m.actions.entries, ∀ i ∈ e.2.inputs.entries, i.2.default ≠ some .null

theorem filter_ne_null {o : Option Value} (h : o ≠ some .null) : o.filter (· ≠ .null) = o := by
  cases o with
  | none => rfl
  | some v => simpa using h

theorem Dict.map_eq_self {α : Type} {d : Dict α} {f : α → α} (h : ∀ e ∈ d.entries, f e.2 = e.2) :
    d.map f = d := by
  obtain ⟨l, hl⟩ := d
  have hmap : (l.map fun e => (e.1, f e.2)) = l :=
    (List.map_congr_left fun e he => congrArg (e.1, ·) (h e he)).trans (List.map_id l)
  simp only [Dict.map, hmap]

theorem Field.withoutNull_eq_self {f : Field} (h : f.default ≠ some .null) : f.withoutNull = f := by
  rw [Field.withoutNull, filter_ne_null h]

theorem ActionInput.withoutNull_eq_self {i : ActionInput} (h : i.default ≠ some .null) :
    i.withoutNull = i := by
  rw [ActionInput.withoutNull, filter_ne_null h]

theorem Action.withoutNull_eq_self {a : Action}
    (h : ∀ i ∈ a.inputs.entries, i.2.default ≠ some .null) : a.withoutNull = a := by
  rw [Action.withoutNull, Dict.map_eq_self fun i hi => ActionInput.withoutNull_eq_self (h i hi)]

theorem Module.withoutNull_eq_self {m : Module} (h : m.NoNullDefaults) : m.withoutNull = m := by
  rw [Module.withoutNull, Dict.map_eq_self fun e he => Field.withoutNull_eq_self (h.1 e he),
    Dict.map_eq_self fun e he => Action.withoutNull_eq_self (h.2 e he)]

/-! ## What is written is read -/

namespace Json

open Document Document.Codec

theorem fills_text {α : Type} {name : String} {get : α → Option String}
    {put : α → Option String → α} {a b : α} (hb : put b none = b) :
    Fills (Codec.optional name .text get put) a b (put b (get a)) :=
  fills_optional (fun s _ => ⟨restores_text s, nofun⟩) hb

theorem restores_constraint {c : Constraint} (h : c.value.Ordered) :
    Restores (.record Shapes.constraint) c c :=
  restores_record (by decide) <|
    .cons (fills_required (restores_text c.type)) <|
    .cons (fills_always (restores_value h)) <|
    .cons (fills_text rfl) .nil

theorem restores_field {f : Field} (h : f.Ordered) :
    Restores (.record Shapes.field) f f.withoutNull :=
  restores_record (by decide) <|
    .cons (fills_required (restores_text f.type)) <|
    .cons (fills_always (restores_flag f.unique)) <|
    .cons (fills_always (restores_flag f.lookup)) <|
    .cons (fills_optional (fun b _ => ⟨restores_flag b, nofun⟩) rfl) <|
    .cons (fills_always (restores_flag f.internal)) <|
    .cons (fills_always (restores_flag f.indexed)) <|
    .cons (fills_default h.1 rfl) <|
    .cons (fills_unlessEmpty (fun s _ => restores_text s) rfl) <|
    .cons (fills_alsoNamed (fills_text rfl)) <|
    .cons (fills_text rfl) <|
    .cons (fills_unlessEmpty (fun c hc => restores_constraint (h.2 c hc)) rfl) .nil

theorem restores_actionInput {i : ActionInput} (h : ∀ v ∈ i.default, v.Ordered) :
    Restores (.record Shapes.actionInput) i i.withoutNull :=
  restores_record (by decide) <|
    .cons (fills_text rfl) <|
    .cons (fills_text rfl) <|
    .cons (fills_always (restores_flag i.required)) <|
    .cons (fills_default h rfl) <|
    .cons (fills_text rfl) <|
    .cons (fills_text rfl) .nil

theorem restores_action {a : Action} (h : a.Ordered) :
    Restores (.record Shapes.action) a a.withoutNull := by
  have hset : Restores Codec.value.dict a.set a.set := by
    have hsame := restores_dict (f := id) fun e he => restores_value (h.1 e he)
    rwa [Dict.map_eq_self fun _ _ => rfl] at hsame
  exact restores_record (by decide) <|
    .cons (fills_text rfl) <|
    .cons (fills_always hset) <|
    .cons (fills_always (restores_dict fun e he => restores_actionInput (h.2 e he))) <|
    .cons (fills_always (restores_list fun s _ => restores_text s)) <|
    .cons (fills_text rfl) <|
    .cons (fills_always (restores_flag a.confirm)) <|
    .cons (fills_text rfl) <|
    .cons (fills_text rfl) .nil

theorem restores_endpoint (e : Endpoint) : Restores (.record Shapes.endpoint) e e :=
  restores_record (by decide) <|
    .cons (fills_required (restores_text e.method)) <|
    .cons (fills_required (restores_text e.path)) <|
    .cons (fills_required (restores_text e.action)) .nil

theorem restores_httpChannel (c : HttpChannel) : Restores (.record Shapes.httpChannel) c c :=
  restores_record (by decide) <|
    .cons (fills_always (restores_flag c.enabled)) <|
    .cons (fills_text rfl) <|
    .cons (fills_unlessEmpty (fun e _ => restores_endpoint e) rfl) .nil

theorem restores_cliChannel (c : CliChannel) : Restores (.record Shapes.cliChannel) c c :=
  restores_record (by decide) <|
    .cons (fills_always (restores_flag c.enabled)) <|
    .cons (fills_text rfl) .nil

theorem restores_ttyChannel (c : TtyChannel) : Restores (.record Shapes.ttyChannel) c c :=
  restores_record (by decide) (.cons (fills_always (restores_flag c.enabled)) .nil)

theorem restores_socketChannel (c : SocketChannel) : Restores (.record Shapes.socketChannel) c c :=
  restores_record (by decide) <|
    .cons (fills_always (restores_flag c.enabled)) <|
    .cons (fills_text rfl) .nil

theorem restores_webhookChannel (c : WebhookChannel) :
    Restores (.record Shapes.webhookChannel) c c :=
  restores_record (by decide) <|
    .cons (fills_always (restores_flag c.enabled)) <|
    .cons (fills_text rfl) .nil

theorem restores_grpcChannel (c : GrpcChannel) : Restores (.record Shapes.grpcChannel) c c :=
  restores_record (by decide) <|
    .cons (fills_always (restores_flag c.enabled)) <|
    .cons (fills_text rfl) <|
    .cons (fills_text rfl) .nil

theorem restores_channels (c : Channels) : Restores (.record Shapes.channels) c c :=
  restores_record (by decide) <|
    .cons (fills_always (restores_httpChannel c.http)) <|
    .cons (fills_always (restores_cliChannel c.cli)) <|
    .cons (fills_always (restores_ttyChannel c.tty)) <|
    .cons (fills_alsoNamed (fills_always (restores_socketChannel c.websocket))) <|
    .cons (fills_always (restores_webhookChannel c.webhook)) <|
    .cons (fills_always (restores_grpcChannel c.grpc)) .nil

theorem restores_about (a : About) : Restores (.record Shapes.about) a a :=
  restores_record (by decide) <|
    .cons (fills_always (restores_text a.version)) <|
    .cons (fills_text rfl) <|
    .cons (fills_always (restores_list fun s _ => restores_text s)) <|
    .cons (fills_text rfl) <|
    .cons (fills_text rfl) .nil

theorem restores_module {m : Module} (h : m.Ordered) :
    Restores (.record Shapes.module) m m.withoutNull :=
  restores_record (by decide) <|
    .cons (fills_always (restores_text m.name)) <|
    .cons (fills_text rfl) <|
    .cons (fills_always (restores_dict fun e he => restores_field (h.1 e he))) <|
    .cons (fills_always (restores_dict fun e he => restores_action (h.2 e he))) <|
    .cons (fills_always (restores_channels m.channels)) <|
    .cons (fills_always (restores_about m.about)) .nil

/-- What is written of a declaration does not depend on the format it may be read in. -/
theorem write_module (m : Module) :
    (Shapes.module : Shape Reader Module).write m = ofModule m :=
  rfl

end Json

/-! ## Whole documents -/

namespace Document

open Json Text

/-- A printed declaration starts with a brace. -/
theorem isBlankText_print (m : Module) : isBlankText (print .json m) = false := by
  have hlead : ∃ cs, prettyChars 0 (ofModule m) = '\x7b' :: cs := by
    rw [← write_module, Shape.write]
    cases List.filterMap _ _ with
    | nil => exact ⟨_, rfl⟩
    | cons e ms => exact ⟨_, rfl⟩
  obtain ⟨cs, hcs⟩ := hlead
  rw [isBlankText, print, pretty, String.toList_ofList, hcs, List.all_cons]
  rfl

/-- A printed declaration is read without its null defaults, where it is not nested too deeply. -/
theorem parse_print {m : Module} (h : m.Ordered) (hd : (ofModule m).depth < depthLimit)
    (file : Option String) : parse .json file (print .json m) = .ok m.withoutNull := by
  have hread : Json.read (record Shapes.module) (print .json m) = .ok m.withoutNull :=
    read_eq_ok (restores_module h 0 depthLimit hd)
  rw [parse, parseJson, isBlankText_print, hread]
  rfl

end Document

end Registrar
