import Registrar.Proofs.ReadBack

/-!
# Records are read back

`Restores c a b`: what the codec `c` writes of `a` is read as `b`. Each way to build a codec has a
lemma. For records, `Fills slot a b b'` says what one member does to the record that is being read,
and `FillsAll` what all members do one after the other; a record is restored as what they make of
the start record (`restores_record`), where no member goes by the name of a later one.
-/

namespace Registrar.Json

open Document

variable {α β : Type}

/-! ## Codecs of values -/

/-- What is written of `a` is read as `b`. -/
def Restores (c : Codec Reader α) (a b : α) : Prop :=
  ∀ k d, (c.write a).depth < d → Reads (c.read d) (prettyChars k (c.write a)) b

theorem restores_text (s : String) : Restores Codec.text s s := by
  intro k d _
  refine reads_of_lead (r := text d) (c := '"') (l := s.toList.flatMap escape ++ ['"'])
    (fun c => by unfold text; rw [skipSpace_skipSpace]) rfl fun rest o _ => ?_
  obtain ⟨o', ho⟩ := readString_quoted s rest (o + 1)
  refine ⟨o', ?_⟩
  simp only [text, List.cons_append, List.append_assoc, List.nil_append,
    skipSpace_cons (c := '"') rfl, Cursor.past, List.drop_succ_cons, List.drop_zero]
  exact ho

theorem restores_flag (b : Bool) : Restores Codec.flag b b := by
  intro k d _
  have hskip : Skips (flag d) := fun c => by unfold flag; rw [skipSpace_skipSpace]
  cases b with
  | true =>
    refine reads_word (r := flag d) (w := ['r', 'u', 'e']) hskip rfl fun cs o => ?_
    simp only [flag, skipSpace_cons (c := 't') rfl]
    rfl
  | false =>
    refine reads_word (r := flag d) (w := ['a', 'l', 's', 'e']) hskip rfl fun cs o => ?_
    simp only [flag, skipSpace_cons (c := 'f') rfl]
    rfl

theorem restores_value {v : Value} (h : v.Ordered) : Restores Codec.value v v :=
  fun k d hd => reads_value v k d h hd

theorem map_apply (f : α → β) (r : Reader α) (d : Nat) (c : Cursor) :
    (f <$> r) d c = (r d c).map fun x => (f x.1, x.2) := by
  change (r >>= fun a => pure (f a)) d c = _
  simp only [bind, pure]
  cases r d c <;> rfl

theorem reads_map {r : Reader α} {f : α → β} {d : Nat} {cs : List Char} {a : α}
    (h : Reads (r d) cs a) : Reads ((f <$> r) d) cs (f a) := by
  intro blanks rest o hb hr
  obtain ⟨o', ho⟩ := h blanks rest o hb hr
  exact ⟨o', by rw [map_apply, ho]; rfl⟩

/-! ## Null and absent values -/

theorem skips_optional (r : Reader α) (d : Nat) : Skips (optional r d) := by
  intro c
  unfold optional
  rw [skipSpace_skipSpace]

theorem reads_optional {r : Reader α} {k d : Nat} {v : Value} {a : α} (hv : v ≠ .null)
    (h : Reads (r d) (prettyChars k v) a) :
    Reads ((Form.optional r : Reader (Option α)) d) (prettyChars k v) (some a) := by
  obtain ⟨c, cs, hcs, hc, -, hn⟩ := exists_lead k v
  rw [hcs] at h ⊢
  refine reads_of_lead (r := optional r d) (skips_optional r d) hc fun rest o hr => ?_
  obtain ⟨o', ho⟩ := h [] rest o nofun hr
  refine ⟨o', ?_⟩
  rw [List.nil_append, List.cons_append] at ho
  simp only [optional, List.cons_append, skipSpace_cons hc]
  split
  · rename_i h
    exact absurd (hn (List.cons.inj h).1) hv
  · rw [ho]
    rfl

theorem reads_optional_null {r : Reader α} {k d : Nat} :
    Reads ((Form.optional r : Reader (Option α)) d) (prettyChars k .null) none := by
  refine reads_word (r := optional r d) (w := ['u', 'l', 'l']) (skips_optional r d) rfl
    fun cs o => ?_
  simp only [optional, skipSpace_cons (c := 'n') rfl]
  rfl

/-! ## Lists and dictionaries -/

theorem restores_list {c : Codec Reader α} {l : List α} (h : ∀ a ∈ l, Restores c a a) :
    Restores c.list l l := by
  intro k d hd
  change (Value.array (l.map c.write)).depth < d at hd
  rw [Value.depth] at hd
  obtain ⟨d, rfl⟩ : ∃ e, d = e + 2 := ⟨d - 2, by omega⟩
  have hitems : ∀ a ∈ l, (c.write a).depth < d + 1 := fun a ha =>
    Nat.lt_succ_of_le (Value.depthItems_le_iff.1 (Nat.le_of_lt_succ (by omega)) _
      (List.mem_map_of_mem ha))
  have hreads : ∀ a ∈ l, Reads (c.read (d + 1)) (prettyChars (k + 1) (c.write a)) a :=
    fun a ha => h a ha (k + 1) (d + 1) (hitems a ha)
  obtain ⟨body, hbody, hlen, hread⟩ := readItems_array hreads
  change Reads (list c.read (d + 2)) (prettyChars k (.array (l.map c.write))) l
  rw [hbody]
  refine reads_of_lead (fun c => by unfold list; rw [skipSpace_skipSpace]) rfl fun rest o _ => ?_
  obtain ⟨o', ho⟩ := hread ((body ++ rest).length + 1) rest (o + 1) (by simp; omega)
  rw [List.map_id'] at ho
  refine ⟨o', ?_⟩
  simp only [list, enter, List.cons_append, skipSpace_cons (c := '[') rfl, Cursor.past,
    List.drop_succ_cons, List.drop_zero]
  exact ho

/-- Entries are put into a dictionary as they are read. -/
theorem takesAll_entries {c : Codec Reader α} {f : α → α} {k d : Nat} {l : List (String × α)}
    (h : ∀ e ∈ l, Reads (c.read d) (prettyChars (k + 1) (c.write e.2)) (f e.2)) (before : Dict α) :
    TakesAll
      (fun m key cur => (readMember (c.read d) cur).map fun (a, cur) => (m.insert key a, cur))
      k before (l.map fun e => (e.1, c.write e.2))
      ((l.map fun e => (e.1, f e.2)).foldl (fun m e => m.insert e.1 e.2) before) := by
  induction l generalizing before with
  | nil => exact .nil before
  | cons e l ih =>
    refine .cons (fun rest o hr => ?_) (ih (fun e he => h e (List.mem_cons_of_mem _ he)) _)
    obtain ⟨o', ho⟩ := readMember_reads (h e List.mem_cons_self) hr o
    exact ⟨o', by rw [ho]; rfl⟩

theorem restores_dict {c : Codec Reader α} {f : α → α} {m : Dict α}
    (h : ∀ e ∈ m.entries, Restores c e.2 (f e.2)) : Restores c.dict m (m.map f) := by
  intro k d hd
  change (Value.object (m.entries.map fun e => (e.1, c.write e.2))).depth < d at hd
  rw [Value.depth] at hd
  obtain ⟨d, rfl⟩ : ∃ e, d = e + 2 := ⟨d - 2, by omega⟩
  have hmembers : ∀ e ∈ m.entries, (c.write e.2).depth < d + 1 := fun e he =>
    Nat.lt_succ_of_le (Value.depthMembers_le_iff.1 (Nat.le_of_lt_succ (by omega)) _
      (List.mem_map_of_mem (f := fun e => (e.1, c.write e.2)) he))
  obtain ⟨body, hbody, hlen, hread⟩ := readMembers_object (takesAll_entries (k := k)
    (fun e he => h e he (k + 1) (d + 1) (hmembers e he)) ∅)
  change Reads (dict c.read (d + 2))
    (prettyChars k (.object (m.entries.map fun e => (e.1, c.write e.2)))) (m.map f)
  rw [hbody]
  refine reads_of_lead (fun c => by unfold dict; rw [skipSpace_skipSpace]) rfl fun rest o _ => ?_
  obtain ⟨o', ho⟩ := hread ((body ++ rest).length + 1) rest (o + 1) (by simp at hlen ⊢; omega)
  have hdict : Dict.ofList (m.map f).entries = m.map f := Dict.ofList_entries _
  rw [Dict.ofList, Dict.map] at hdict
  refine ⟨o', ?_⟩
  simp only [dict, enter, List.cons_append, skipSpace_cons (c := '\x7b') rfl, Cursor.past,
    List.drop_succ_cons, List.drop_zero]
  rw [ho, hdict]
  rfl

/-! ## Members of records -/

/-- What is written of the member of `a`, if anything is, turns the record `b` into `b'` as it is
read. -/
inductive Fills (slot : Slot Reader α) (a b : α) : α → Prop
  | absent (h : slot.write a = none) (hr : slot.required = false) : Fills slot a b b
  | written {v : Value} {b' : α} (h : slot.write a = some v)
    (hr : ∀ k d, v.depth < d → Reads (slot.read b d) (prettyChars k v) b') : Fills slot a b b'

/-- What is written of some members of `a` turns the record `b` into `b'`. -/
inductive FillsAll (a : α) : α → List (Slot Reader α) → α → Prop
  | nil {b : α} : FillsAll a b [] b
  | cons {b b' b'' : α} {slot : Slot Reader α} {slots : List (Slot Reader α)}
    (h : Fills slot a b b') (hs : FillsAll a b' slots b'') : FillsAll a b (slot :: slots) b''

section Slots

variable {name : String} {c : Codec Reader β} {a b : α}

theorem fills_required {get : α → β} {put : α → β → α} {x : β} (h : Restores c (get a) x) :
    Fills (Codec.required name c get put) a b (put b x) :=
  .written rfl fun k d hd => reads_map (h k d hd)

theorem fills_always {get : α → β} {put : α → β → α} {x : β} (h : Restores c (get a) x) :
    Fills (Codec.always name c get put) a b (put b x) :=
  .written rfl fun k d hd => reads_map (h k d hd)

theorem fills_optional {get : α → Option β} {put : α → Option β → α}
    (h : ∀ x ∈ get a, Restores c x x ∧ c.write x ≠ .null) (hb : put b none = b) :
    Fills (Codec.optional name c get put) a b (put b (get a)) := by
  cases hg : get a with
  | none =>
    rw [hb]
    exact .absent (congrArg (Option.map c.write) hg) rfl
  | some x =>
    exact .written (congrArg (Option.map c.write) hg) fun k d hd =>
      reads_map (reads_optional (h x hg).2 ((h x hg).1 k d hd))

/-- A null is written, but read as no value at all. -/
theorem fills_default {get : α → Option Value} {put : α → Option Value → α}
    (h : ∀ v ∈ get a, v.Ordered) (hb : put b none = b) :
    Fills (Codec.optional name .value get put) a b (put b ((get a).filter (· ≠ .null))) := by
  by_cases hnull : get a = some .null
  · rw [hnull]
    exact .written (congrArg (Option.map id) hnull) fun k d _ => reads_map reads_optional_null
  · have hsame : (get a).filter (· ≠ .null) = get a := by
      cases hg : get a with
      | none => rfl
      | some v => simpa [hg] using hnull
    rw [hsame]
    exact fills_optional
      (fun v hv => ⟨restores_value (h v hv), fun h : v = .null => hnull (h ▸ hv)⟩) hb

theorem fills_unlessEmpty {get : α → List β} {put : α → List β → α}
    (h : ∀ x ∈ get a, Restores c x x) (hb : put b [] = b) :
    Fills (Codec.unlessEmpty name c get put) a b (put b (get a)) := by
  cases hg : get a with
  | nil =>
    rw [hb]
    exact .absent (by simp [Codec.unlessEmpty, hg]) rfl
  | cons x xs =>
    rw [← hg]
    exact .written (by simp [Codec.unlessEmpty, hg]) fun k d hd =>
      reads_map (restores_list h k d hd)

theorem fills_alsoNamed {slot : Slot Reader α} {b' : α} {names : List String}
    (h : Fills slot a b b') : Fills (slot.alsoNamed names) a b b' := by
  cases h with
  | absent h hr => exact .absent h hr
  | written h hr => exact .written h hr

end Slots

/-! ## Records -/

/-- The member with the name of a slot goes to that slot, where no earlier one goes by the name. -/
theorem find?_answers {done slots : List (Slot Reader α)} {slot : Slot Reader α}
    (h : (done ++ slot :: slots).Pairwise fun x y => x.answers y.name = false) :
    (done ++ slot :: slots).find? (·.answers slot.name) = some slot := by
  refine List.find?_eq_some_iff_append.2 ⟨by simp [Slot.answers], done, slots, rfl, fun x hx => ?_⟩
  rw [(List.pairwise_append.1 h).2.2 x hx slot List.mem_cons_self]
  rfl

/-- A member that was not there before is read into its slot. -/
theorem takes_slot {s : Shape Reader α} {b b' : α} {done slots : List (Slot Reader α)}
    {slot : Slot Reader α} {v : Value} {seen : List String} {k d : Nat}
    (hs : s.slots = done ++ slot :: slots)
    (hnames : s.slots.Pairwise fun x y => x.answers y.name = false) (hnew : slot.name ∉ seen)
    (hr : Reads (slot.read b d) (prettyChars (k + 1) v) b') :
    Takes (recordMember s d) k (b, seen) (slot.name, v) (b', slot.name :: seen) := by
  intro rest o hrest
  obtain ⟨o', ho⟩ := readMember_reads hr hrest o
  refine ⟨o', ?_⟩
  rw [hs] at hnames
  simp only [recordMember, hs, find?_answers hnames, ho, Except.map]
  rw [if_neg (by simpa using hnew)]

/-- The members of a record that are written are read one after the other. Those in `seen` are
members before them. -/
theorem takesAll_slots {s : Shape Reader α} {a b b' : α} {done slots : List (Slot Reader α)}
    {seen : List String} {k d : Nat} (hs : s.slots = done ++ slots)
    (hnames : s.slots.Pairwise fun x y => x.answers y.name = false) (h : FillsAll a b slots b')
    (hd : ∀ slot ∈ slots, ∀ v ∈ slot.write a, v.depth < d)
    (hseen : ∀ n ∈ seen, ∃ slot ∈ done, slot.name = n) :
    ∃ seen', (∀ n ∈ seen, n ∈ seen') ∧
      (∀ slot ∈ slots, slot.required = true → slot.name ∈ seen') ∧
      TakesAll (recordMember s d) k (b, seen)
        (slots.filterMap fun slot => (slot.write a).map (slot.name, ·)) (b', seen') := by
  induction h generalizing done seen with
  | nil => exact ⟨seen, fun _ h => h, nofun, .nil _⟩
  | @cons b b₁ b' slot slots hfill hrest ih =>
    have hs' : s.slots = (done ++ [slot]) ++ slots := by rw [hs, List.append_assoc]; rfl
    have hd' : ∀ t ∈ slots, ∀ v ∈ t.write a, v.depth < d := fun t ht =>
      hd t (List.mem_cons_of_mem _ ht)
    have hdone : ∀ n ∈ seen, ∃ t ∈ done ++ [slot], t.name = n := fun n hn =>
      (hseen n hn).imp fun t ht => ⟨List.mem_append_left _ ht.1, ht.2⟩
    cases hfill with
    | absent hw hr =>
      obtain ⟨seen', hsub, hreq, htakes⟩ := ih hs' hd' hdone
      refine ⟨seen', hsub, List.forall_mem_cons.2 ⟨fun htr => ?_, hreq⟩, ?_⟩
      · rw [hr] at htr
        cases htr
      · rw [List.filterMap_cons_none (by rw [hw]; rfl)]
        exact htakes
    | @written v _ hw hr =>
      -- no member before it goes by its name
      have hnew : slot.name ∉ seen := fun hn => by
        obtain ⟨t, ht, hname⟩ := hseen _ hn
        rw [hs] at hnames
        have := (List.pairwise_append.1 hnames).2.2 t ht slot List.mem_cons_self
        simp [Slot.answers, hname] at this
      obtain ⟨seen', hsub, hreq, htakes⟩ := ih hs' hd'
        (List.forall_mem_cons.2 ⟨⟨slot, by simp, rfl⟩, hdone⟩)
      obtain ⟨hname, hsub⟩ := List.forall_mem_cons.1 hsub
      refine ⟨seen', hsub, List.forall_mem_cons.2 ⟨fun _ => hname, hreq⟩, ?_⟩
      rw [List.filterMap_cons_some (by rw [hw]; rfl)]
      have hdepth := hd slot List.mem_cons_self v hw
      exact .cons (takes_slot hs hnames hnew (hr (k + 1) d hdepth)) htakes

/-- A record is restored as what its members make of the start record. -/
theorem restores_record {s : Shape Reader α} {a b : α}
    (hnames : s.slots.Pairwise fun x y => x.answers y.name = false)
    (h : FillsAll a s.start s.slots b) : Restores (.record s) a b := by
  intro k d hd
  change (s.write a).depth < d at hd
  rw [Shape.write, Value.depth] at hd
  obtain ⟨d, rfl⟩ : ∃ e, d = e + 2 := ⟨d - 2, by omega⟩
  have hmembers := Value.depthMembers_le_iff.1 (Nat.le_of_lt_succ (Nat.lt_of_succ_lt_succ hd))
  have hslots : ∀ slot ∈ s.slots, ∀ v ∈ slot.write a, v.depth < d + 1 := fun slot hslot v hv =>
    Nat.lt_succ_of_le (hmembers (slot.name, v)
      (List.mem_filterMap.2 ⟨slot, hslot, by rw [hv]; rfl⟩))
  have hnone : ∀ n ∈ ([] : List String), ∃ t ∈ ([] : List (Slot Reader α)), t.name = n := nofun
  obtain ⟨seen, -, hreq, htakes⟩ := takesAll_slots (k := k) rfl hnames h hslots hnone
  obtain ⟨body, hbody, hlen, hread⟩ := readMembers_object htakes
  change Reads (record s (d + 2)) (prettyChars k (s.write a)) b
  rw [Shape.write, hbody]
  refine reads_of_lead (fun c => by unfold record; rw [skipSpace_skipSpace]) rfl fun rest o _ => ?_
  obtain ⟨o', ho⟩ := hread ((body ++ rest).length + 1) rest (o + 1) (by simp; omega)
  refine ⟨o', ?_⟩
  have hmissing : (s.slots.find? fun slot => slot.required && !seen.contains slot.name) = none :=
    List.find?_eq_none.2 fun slot hslot => by simpa using hreq slot hslot
  simp only [record, enter, recordObject, List.cons_append, skipSpace_cons (c := '\x7b') rfl,
    Cursor.past, List.drop_succ_cons, List.drop_zero, ho, hmissing]

end Registrar.Json
