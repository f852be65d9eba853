import Registrar.Proofs.NullDefaults

/-!
# What documents yield

`Yields r P`: whatever the reader `r` reads has the property `P`, whatever the text. A reader of
containers passes on what its parts yield, one container further in; a record has a property that
its start record has and that reading any one of its members keeps (`yields_record`), which covers
both ways to write a record.

From this, a declaration that is read inside at most `n` containers `Fits` in them: its values are
ordered and nest no deeper than is left at their place, and no default is null.
-/

namespace Registrar

namespace Json

open Document

variable {α β : Type}

/-- Whatever the reader reads has the property. -/
def Yields (r : Cursor → Step α) (P : α → Prop) : Prop := ∀ c a c', r c = .ok (a, c') → P a

/-! ## Parts and results -/

theorem map_eq_ok {x : Step α} {f : α × Cursor → β × Cursor} {b : β × Cursor}
    (h : x.map f = .ok b) : ∃ a, x = .ok a ∧ f a = b := by
  cases x with
  | error e => cases h
  | ok a => exact ⟨a, rfl, Except.ok.inj h⟩

theorem yields_map {r : Reader α} {d : Nat} {f : α → β} {P : α → Prop} {Q : β → Prop}
    (h : Yields (r d) P) (hf : ∀ a, P a → Q (f a)) : Yields ((f <$> r) d) Q := by
  intro c b c' hr
  rw [map_apply] at hr
  obtain ⟨⟨a, c₁⟩, ha, heq⟩ := map_eq_ok hr
  cases heq
  exact hf a (h c a c₁ ha)

/-- Where nothing is asked of the part. -/
theorem yields_put {r : Reader α} {d : Nat} {f : α → β} {Q : β → Prop} (hf : ∀ a, Q (f a)) :
    Yields ((f <$> r) d) Q :=
  yields_map (P := fun _ => True) (fun _ _ _ _ => trivial) fun a _ => hf a

/-! ## Containers -/

theorem exists_of_enter {inside : Nat → Cursor → Step α} {d : Nat} {c : Cursor} {x : α × Cursor}
    (h : enter d c inside = .ok x) : ∃ c₁, inside (d - 1) c₁ = .ok x := by
  unfold enter at h
  split at h
  · exact ⟨_, h⟩
  · cases h

theorem yields_items {item : Cursor → Step α} {P : α → Prop} (h : Yields item P) (n : Nat)
    (first : Bool) : Yields (readItems item n first) fun as => ∀ a ∈ as, P a := by
  induction n generalizing first with
  | zero =>
    intro c as c' hr
    cases hr
  | succ n ih =>
    intro c as c' hr
    rw [readItems] at hr
    split at hr
    · cases hr
    · cases hr
      exact List.forall_mem_nil _
    · split at hr
      · cases hr
      · rename_i a c₁ ha
        obtain ⟨⟨as, c₂⟩, has, heq⟩ := map_eq_ok hr
        cases heq
        exact List.forall_mem_cons.2 ⟨h _ _ _ ha, ih false _ _ _ has⟩

theorem yields_members {member : β → String → Cursor → Step β} {Q : β → Prop}
    (h : ∀ b key, Q b → Yields (member b key) Q) (n : Nat) (first : Bool) {b : β} (hb : Q b) :
    Yields (readMembers member n first b) Q := by
  induction n generalizing first b with
  | zero =>
    intro c b' c' hr
    cases hr
  | succ n ih =>
    intro c b' c' hr
    rw [readMembers] at hr
    split at hr
    · cases hr
    · cases hr
      exact hb
    · split at hr
      · cases hr
      · split at hr
        · cases hr
        · rename_i b₁ c₁ hm
          exact ih false (h b _ hb _ _ _ hm) _ _ _ hr

theorem yields_member {item : Cursor → Step α} {P : α → Prop} (h : Yields item P) :
    Yields (readMember item) P := by
  intro c a c' hr
  rw [readMember] at hr
  split at hr
  · cases hr
  · exact h _ _ _ hr

theorem yields_list {r : Reader α} {d : Nat} {P : α → Prop} (h : Yields (r (d - 1)) P) :
    Yields (list r d) fun as => ∀ a ∈ as, P a := by
  intro c as c' hr
  unfold list at hr
  dsimp only at hr
  split at hr
  · obtain ⟨c₁, hitems⟩ := exists_of_enter hr
    exact yields_items h _ true _ _ _ hitems
  · cases hr

theorem yields_dict {r : Reader α} {d : Nat} {P : α → Prop} (h : Yields (r (d - 1)) P) :
    Yields (dict r d) fun m => ∀ e ∈ m.entries, P e.2 := by
  intro c m c' hr
  unfold dict at hr
  dsimp only at hr
  split at hr
  · obtain ⟨c₁, hmembers⟩ := exists_of_enter hr
    refine yields_members (Q := fun m => ∀ e ∈ m.entries, P e.2) (fun m key hm => ?_) _ true
      (by rintro _ ⟨⟩) _ _ _ hmembers
    intro c m' c' hr
    obtain ⟨⟨a, c₁⟩, ha, heq⟩ := map_eq_ok hr
    cases heq
    intro e he
    rcases Dict.mem_insertEntry he with rfl | he
    · exact yields_member h _ _ _ ha
    · exact hm e he
  · cases hr

/-! ## Records -/

theorem yields_recordItems {title : String} {members d : Nat} {Q : α → Prop}
    {slots : List (Slot Reader α)} (h : ∀ slot ∈ slots, ∀ a, Q a → Yields (slot.read a d) Q)
    (i : Nat) {a : α} (ha : Q a) : Yields (recordItems title members d i a slots) Q := by
  induction slots generalizing i a with
  | nil =>
    intro c b c' hr
    rw [recordItems] at hr
    cases hclose : closeItems c with
    | error e => rw [hclose] at hr; cases hr
    | ok c₁ => rw [hclose] at hr; cases hr; exact ha
  | cons slot slots ih =>
    intro c b c' hr
    rw [recordItems] at hr
    split at hr
    · cases hr
    · split at hr
      · cases hr
      · cases hr
        exact ha
    · split at hr
      · cases hr
      · rename_i b₁ c₁ hb
        exact ih (fun t ht => h t (List.mem_cons_of_mem _ ht)) _
          (h slot List.mem_cons_self a ha _ _ _ hb) _ _ _ hr

theorem yields_recordMember {s : Shape Reader α} {d : Nat} {Q : α → Prop}
    (h : ∀ slot ∈ s.slots, ∀ a, Q a → Yields (slot.read a d) Q) {state : α × List String}
    (hstate : Q state.1) (key : String) : Yields (recordMember s d state key) fun t => Q t.1 := by
  intro c state' c' hr
  rw [recordMember] at hr
  split at hr
  · rename_i slot hslot
    split at hr
    · cases hr
    · obtain ⟨⟨a, c₁⟩, ha, heq⟩ := map_eq_ok hr
      cases heq
      exact yields_member (h slot (List.mem_of_find?_eq_some hslot) _ hstate) _ _ _ ha
  · obtain ⟨_, -, heq⟩ := map_eq_ok hr
    cases heq
    exact hstate

theorem yields_recordObject {s : Shape Reader α} {d : Nat} {Q : α → Prop} (hstart : Q s.start)
    (h : ∀ slot ∈ s.slots, ∀ a, Q a → Yields (slot.read a d) Q) : Yields (recordObject s d) Q := by
  intro c a c' hr
  rw [recordObject] at hr
  split at hr
  · cases hr
  · rename_i hmembers
    split at hr
    · cases hr
    · cases hr
      exact yields_members (Q := fun state => Q state.1)
        (fun _ key hstate => yields_recordMember h hstate key) _ true hstart _ _ _ hmembers

/-- A record has what its start record has and reading any member keeps. -/
theorem yields_record {s : Shape Reader α} {d : Nat} {Q : α → Prop} (hstart : Q s.start)
    (h : ∀ slot ∈ s.slots, ∀ a, Q a → Yields (slot.read a (d - 1)) Q) : Yields (record s d) Q := by
  intro c a c' hr
  unfold record at hr
  dsimp only at hr
  split at hr
  · obtain ⟨c₁, hobject⟩ := exists_of_enter hr
    exact yields_recordObject hstart h _ _ _ hobject
  · obtain ⟨c₁, hitems⟩ := exists_of_enter hr
    exact yields_recordItems h 0 hstart _ _ _ hitems
  · cases hr

end Json

/-! ## Any value -/

/-- The value is ordered, and at most `n` containers are nested in it. -/
def Value.Fits (n : Nat) (v : Value) : Prop := v.Ordered ∧ v.depth ≤ n

theorem Value.Fits.mono {n k : Nat} {v : Value} (h : v.Fits n) (hk : n ≤ k) : v.Fits k :=
  ⟨h.1, Nat.le_trans h.2 hk⟩

theorem Value.fits_string (n : Nat) (s : String) : (string s).Fits n := ⟨trivial, Nat.zero_le _⟩

theorem Value.fits_array {n : Nat} {xs : List Value} (h : ∀ x ∈ xs, x.Fits n) :
    (array xs).Fits (n + 1) :=
  ⟨orderedItems_iff.2 fun x hx => (h x hx).1,
    Nat.succ_le_succ (depthItems_le_iff.2 fun x hx => (h x hx).2)⟩

theorem Value.fits_ofMembers {n : Nat} {ms : List (String × Value)} (h : ∀ e ∈ ms, e.2.Fits n) :
    (ofMembers ms).Fits (n + 1) :=
  ⟨⟨(Dict.ofList ms).sorted,
      orderedMembers_iff.2 fun e he => (h e (Dict.mem_of_mem_ofList he)).1⟩,
    Nat.succ_le_succ (depthMembers_le_iff.2 fun e he => (h e (Dict.mem_of_mem_ofList he)).2)⟩

namespace Json

open Document

/-- What reading a value inside at most `d` containers, less one, can give: a value without parts,
or a container of what is read one container further in. -/
inductive Given (d : Nat) (c : Cursor) : Value → Prop
  | null {cs : List Char} (h : c.skipSpace.rest = 'n' :: cs) : Given d c .null
  | bool (b : Bool) : Given d c (.bool b)
  | number (n : Number) : Given d c (.number n)
  | string (s : String) : Given d c (.string s)
  | array {e : Nat} {xs : List Value} (hd : d = e + 2)
    (h : ∀ P, Yields (readValue (e + 1)) P → ∀ x ∈ xs, P x) : Given d c (.array xs)
  | object {e : Nat} {ms : List (String × Value)} (hd : d = e + 2)
    (h : ∀ P, Yields (readValue (e + 1)) P → ∀ m ∈ ms, P m.2) : Given d c (.ofMembers ms)

theorem given_of_readValue {d : Nat} {c c' : Cursor} {v : Value}
    (hr : readValue d c = .ok (v, c')) : Given d c v := by
  unfold readValue at hr
  dsimp only at hr
  split at hr
  · cases hr
  · rename_i hn
    obtain ⟨_, -, heq⟩ := map_eq_ok hr
    cases heq
    exact .null hn
  -- the truth values
  iterate 2
    · obtain ⟨_, -, heq⟩ := map_eq_ok hr
      cases heq
      exact .bool _
  · obtain ⟨_, -, heq⟩ := map_eq_ok hr
    cases heq
    exact .string _
  · split at hr
    · obtain ⟨⟨xs, c₁⟩, hxs, heq⟩ := map_eq_ok hr
      cases heq
      exact .array rfl fun P h => yields_items h _ true _ _ _ hxs
    · cases hr
  · split at hr
    · obtain ⟨⟨ms, c₁⟩, hms, heq⟩ := map_eq_ok hr
      cases heq
      refine .object rfl fun P h m hm => ?_
      refine yields_members (Q := fun ms => ∀ m ∈ ms, P m.2) (fun before key hb => ?_) _ true
        (by rintro _ ⟨⟩) _ _ _ hms m (List.mem_reverse.1 hm)
      intro c ms c' hr
      obtain ⟨⟨x, c₁⟩, hx, heq⟩ := map_eq_ok hr
      cases heq
      exact List.forall_mem_cons.2 ⟨yields_member h _ _ _ hx, hb⟩
    · cases hr
  · split at hr
    · obtain ⟨_, -, heq⟩ := map_eq_ok hr
      cases heq
      exact .number _
    · cases hr

theorem yields_value (d : Nat) : Yields (readValue d) (Value.Fits (d - 1)) := by
  induction d with
  | zero =>
    intro c v c' hr
    cases given_of_readValue hr with
    | array hd h => cases hd
    | object hd h => cases hd
    | _ => exact ⟨trivial, Nat.zero_le _⟩
  | succ d ih =>
    intro c v c' hr
    cases given_of_readValue hr with
    | array hd h =>
      obtain rfl := Nat.succ.inj hd
      exact Value.fits_array (h _ ih)
    | object hd h =>
      obtain rfl := Nat.succ.inj hd
      exact Value.fits_ofMembers (h _ ih)
    | _ => exact ⟨trivial, Nat.zero_le _⟩

/-- Only what starts as null does is read as null. -/
theorem ne_null_of_readValue {d : Nat} {c c' : Cursor} {v : Value}
    (hc : ∀ cs, c.skipSpace.rest ≠ 'n' :: cs) (hr : readValue d c = .ok (v, c')) : v ≠ .null := by
  rintro rfl
  generalize hv : Value.null = v at hr
  cases given_of_readValue hr with
  | null h => exact hc _ h
  | _ => cases hv

/-- A default is never null. -/
theorem yields_default (d : Nat) :
    Yields (optional readValue d) fun o => ∀ v ∈ o, v ≠ .null ∧ v.Fits (d - 1) := by
  intro c o c' hr
  unfold optional at hr
  dsimp only at hr
  split at hr
  · obtain ⟨_, -, heq⟩ := map_eq_ok hr
    cases heq
    nofun
  · rename_i hn
    obtain ⟨⟨v, c₁⟩, hv, heq⟩ := map_eq_ok hr
    cases heq
    rintro _ ⟨⟩
    exact ⟨ne_null_of_readValue (by rwa [skipSpace_skipSpace]) hv, yields_value d _ v c₁ hv⟩

end Json

/-! ## Declarations -/

/-- The constraint comes from inside at most `n` containers, itself included. -/
def Constraint.Fits (n : Nat) (c : Constraint) : Prop := c.value.Fits (n - 1)

/-- The field comes from inside at most `n` containers, itself included. -/
def Field.Fits (n : Nat) (f : Field) : Prop :=
  (∀ v ∈ f.default, v ≠ .null ∧ v.Fits (n - 1)) ∧ ∀ c ∈ f.constraints, c.Fits (n - 2)

/-- The input comes from inside at most `n` containers, itself included. -/
def ActionInput.Fits (n : Nat) (i : ActionInput) : Prop :=
  ∀ v ∈ i.default, v ≠ .null ∧ v.Fits (n - 1)

/-- The action comes from inside at most `n` containers, itself included. -/
def Action.Fits (n : Nat) (a : Action) : Prop :=
  (∀ e ∈ a.set.entries, e.2.Fits (n - 2)) ∧ ∀ e ∈ a.inputs.entries, e.2.Fits (n - 2)

/-- The declaration comes from inside at most `n` containers, itself included. -/
def Module.Fits (n : Nat) (m : Module) : Prop :=
  (∀ e ∈ m.schema.entries, e.2.Fits (n - 2)) ∧ ∀ e ∈ m.actions.entries, e.2.Fits (n - 2)

namespace Json

open Document

theorem yields_constraint (d : Nat) :
    Yields (record Shapes.constraint d) (Constraint.Fits (d - 1)) := by
  refine yields_record ⟨trivial, Nat.zero_le _⟩ ?_
  simp only [Shapes.constraint, List.forall_mem_cons]
  exact ⟨fun c hc => yields_put fun _ => hc,
    fun c _ => yields_map (yields_value _) fun _ hv => hv,
    fun c hc => yields_put fun _ => hc, nofun⟩

theorem yields_field (d : Nat) : Yields (record Shapes.field d) (Field.Fits (d - 1)) := by
  refine yields_record ⟨nofun, nofun⟩ ?_
  simp only [Shapes.field, List.forall_mem_cons]
  exact ⟨fun f hf => yields_put fun _ => hf,
    fun f hf => yields_put fun _ => hf,
    fun f hf => yields_put fun _ => hf,
    fun f hf => yields_put fun _ => hf,
    fun f hf => yields_put fun _ => hf,
    fun f hf => yields_put fun _ => hf,
    fun f hf => yields_map (yields_default _) fun _ hv => ⟨hv, hf.2⟩,
    fun f hf => yields_put fun _ => hf,
    fun f hf => yields_put fun _ => hf,
    fun f hf => yields_put fun _ => hf,
    fun f hf => yields_map (yields_list (yields_constraint _)) fun _ hcs => ⟨hf.1, hcs⟩, nofun⟩

theorem yields_actionInput (d : Nat) :
    Yields (record Shapes.actionInput d) (ActionInput.Fits (d - 1)) := by
  refine yields_record nofun ?_
  simp only [Shapes.actionInput, List.forall_mem_cons]
  exact ⟨fun i hi => yields_put fun _ => hi,
    fun i hi => yields_put fun _ => hi,
    fun i hi => yields_put fun _ => hi,
    fun i _ => yields_map (yields_default _) fun _ hv => hv,
    fun i hi => yields_put fun _ => hi,
    fun i hi => yields_put fun _ => hi, nofun⟩

theorem yields_action (d : Nat) : Yields (record Shapes.action d) (Action.Fits (d - 1)) := by
  refine yields_record ⟨nofun, nofun⟩ ?_
  simp only [Shapes.action, List.forall_mem_cons]
  exact ⟨fun a ha => yields_put fun _ => ha,
    fun a ha => yields_map (yields_dict (yields_value _)) fun _ hs => ⟨hs, ha.2⟩,
    fun a ha => yields_map (yields_dict (yields_actionInput _)) fun _ hi => ⟨ha.1, hi⟩,
    fun a ha => yields_put fun _ => ha,
    fun a ha => yields_put fun _ => ha,
    fun a ha => yields_put fun _ => ha,
    fun a ha => yields_put fun _ => ha,
    fun a ha => yields_put fun _ => ha, nofun⟩

theorem yields_module (d : Nat) : Yields (record Shapes.module d) (Module.Fits (d - 1)) := by
  refine yields_record ⟨nofun, nofun⟩ ?_
  simp only [Shapes.module, List.forall_mem_cons]
  exact ⟨fun m hm => yields_put fun _ => hm,
    fun m hm => yields_put fun _ => hm,
    fun m hm => yields_map (yields_dict (yields_field _)) fun _ hf => ⟨hf, hm.2⟩,
    fun m hm => yields_map (yields_dict (yields_action _)) fun _ ha => ⟨hm.1, ha⟩,
    fun m hm => yields_put fun _ => hm,
    fun m hm => yields_put fun _ => hm, nofun⟩

/-! ## Documents -/

theorem of_read {r : Reader α} {P : α → Prop} {text : String} {a : α}
    (h : Yields (r depthLimit) P) (hr : Json.read r text = .ok a) : P a := by
  rw [Json.read] at hr
  split at hr
  · cases hr
  · rename_i b c hb
    dsimp only at hr
    split at hr
    · cases hr
      exact h _ _ _ hb
    · cases hr

end Json

/-- A declaration that is read fits in the containers that a document may nest. -/
theorem Document.fits_of_parse {file : Option String} {text : String} {m : Module}
    (h : parse .json file text = .ok m) : m.Fits (Json.depthLimit - 1) := by
  rw [parse, parseJson] at h
  split at h
  · cases h
  · split at h
    · rename_i hread
      cases h
      exact Json.of_read (Json.yields_module _) hread
    · cases h

theorem Module.Fits.ordered {m : Module} {n : Nat} (h : m.Fits n) : m.Ordered :=
  ⟨fun e he => ⟨fun v hv => ((h.1 e he).1 v hv).2.1, fun c hc => ((h.1 e he).2 c hc).1⟩,
    fun e he => ⟨fun v hv => ((h.2 e he).1 v hv).1, fun i hi v hv => ((h.2 e he).2 i hi v hv).2.1⟩⟩

theorem Module.Fits.noNullDefaults {m : Module} {n : Nat} (h : m.Fits n) : m.NoNullDefaults :=
  ⟨fun e he hnull => ((h.1 e he).1 .null hnull).1 rfl,
    fun e he i hi hnull => ((h.2 e he).2 i hi .null hnull).1 rfl⟩

end Registrar
