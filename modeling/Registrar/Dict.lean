/-!
# Dictionaries

A dictionary maps texts to values and lists its entries by key, in order of code points (which is
the order of the bytes of UTF-8). The order is part of the type, so two dictionaries with the same
look-ups are equal: `Dict.ext_get?`.
-/

namespace Registrar

universe u v

/-- Entries with strictly increasing keys. -/
structure Dict (α : Type u) where
  entries : List (String × α)
  sorted : entries.Pairwise fun a b => a.1 < b.1
  deriving DecidableEq

namespace Dict

variable {α : Type u} {β : Type v}

/-! ## Operations -/

/-- The dictionary without entries. -/
def empty : Dict α := ⟨[], .nil⟩

instance : EmptyCollection (Dict α) := ⟨empty⟩
instance : Inhabited (Dict α) := ⟨empty⟩

/-- The value under a key. -/
def get? (d : Dict α) (k : String) : Option α := d.entries.lookup k

/-- Whether there is a value under the key. -/
def contains (d : Dict α) (k : String) : Bool := (d.get? k).isSome

/-- The keys in increasing order. -/
def keys (d : Dict α) : List String := d.entries.map (·.1)

/-- The values in the order of their keys. -/
def values (d : Dict α) : List α := d.entries.map (·.2)

/-- The number of entries. -/
def size (d : Dict α) : Nat := d.entries.length

/-- Whether there are no entries. -/
def isEmpty (d : Dict α) : Bool := d.entries.isEmpty

/-- Puts an entry in its place, where it replaces one with the same key. -/
def insertEntry (k : String) (x : α) : List (String × α) → List (String × α)
  | [] => [(k, x)]
  | (k', x') :: r =>
    if k < k' then (k, x) :: (k', x') :: r
    else if k = k' then (k, x) :: r
    else (k', x') :: insertEntry k x r

theorem mem_insertEntry {k : String} {x : α} {a : String × α} {l : List (String × α)}
    (h : a ∈ insertEntry k x l) : a = (k, x) ∨ a ∈ l := by
  induction l with
  | nil => simpa [insertEntry] using h
  | cons b r ih =>
    simp only [insertEntry] at h
    split at h
    · simpa using h
    · split at h
      · rcases List.mem_cons.1 h with h | h
        · exact .inl h
        · exact .inr (List.mem_cons_of_mem _ h)
      · rcases List.mem_cons.1 h with h | h
        · exact .inr (h ▸ List.mem_cons_self)
        · exact (ih h).imp id (List.mem_cons_of_mem _)

theorem lt_of_not_lt_of_ne {a b : String} (h : ¬ a < b) (hne : a ≠ b) : b < a :=
  String.not_le.1 fun hle => hne (String.le_antisymm hle (String.not_lt.1 h))

theorem sorted_insertEntry (k : String) (x : α) {l : List (String × α)}
    (h : l.Pairwise fun a b => a.1 < b.1) :
    (insertEntry k x l).Pairwise fun a b => a.1 < b.1 := by
  induction l with
  | nil => simp [insertEntry]
  | cons b r ih =>
    have hb := (List.pairwise_cons.1 h).1
    simp only [insertEntry]
    split
    · rename_i hk
      refine List.pairwise_cons.2 ⟨fun a ha => ?_, h⟩
      rcases List.mem_cons.1 ha with rfl | ha
      · exact hk
      · exact String.lt_trans hk (hb a ha)
    · split
      · rename_i hk
        exact List.pairwise_cons.2 ⟨fun a ha => hk ▸ hb a ha, h.of_cons⟩
      · rename_i hlt hne
        refine List.pairwise_cons.2 ⟨fun a ha => ?_, ih h.of_cons⟩
        rcases mem_insertEntry ha with rfl | ha
        · exact lt_of_not_lt_of_ne hlt hne
        · exact hb a ha

/-- The dictionary with the value under the key. -/
def insert (d : Dict α) (k : String) (x : α) : Dict α :=
  ⟨insertEntry k x d.entries, sorted_insertEntry k x d.sorted⟩

/-- The dictionary without the key. -/
def erase (d : Dict α) (k : String) : Dict α :=
  ⟨d.entries.filter fun e => e.1 ≠ k, d.sorted.filter _⟩

/-- The dictionary of the entries, of which the last one with a key counts. -/
def ofList (l : List (String × α)) : Dict α := l.foldl (fun d e => d.insert e.1 e.2) ∅

/-- The dictionary with every value replaced by its image. -/
def map (f : α → β) (d : Dict α) : Dict β :=
  ⟨d.entries.map fun e => (e.1, f e.2), List.pairwise_map.2 d.sorted⟩

/-! ## What the operations do to a look-up -/

@[simp] theorem get?_empty (k : String) : (∅ : Dict α).get? k = none := rfl

theorem lookup_cons_ite (k kb : String) (x : α) (r : List (String × α)) :
    List.lookup k ((kb, x) :: r) = if k = kb then some x else r.lookup k := by
  by_cases h : k = kb
  · simp [h]
  · rw [List.lookup_cons, beq_eq_false_iff_ne.2 h, if_neg h]

theorem lookup_insertEntry (k k' : String) (x : α) (l : List (String × α)) :
    (insertEntry k x l).lookup k' = if k' = k then some x else l.lookup k' := by
  induction l with
  | nil => simp [insertEntry, lookup_cons_ite]
  | cons b r ih =>
    obtain ⟨kb, xb⟩ := b
    simp only [insertEntry]
    split
    · simp only [lookup_cons_ite]
    · split
      · rename_i hk
        subst hk
        simp only [lookup_cons_ite]
        split <;> rfl
      · rename_i hne
        simp only [lookup_cons_ite, ih]
        by_cases hb : k' = kb
        · rw [if_pos hb, if_pos hb, if_neg (hb ▸ Ne.symm hne)]
        · rw [if_neg hb, if_neg hb]

theorem get?_insert (d : Dict α) (k k' : String) (x : α) :
    (d.insert k x).get? k' = if k' = k then some x else d.get? k' :=
  lookup_insertEntry k k' x d.entries

theorem get?_insert_empty {k k' : String} {x y : α} :
    ((∅ : Dict α).insert k x).get? k' = some y ↔ k' = k ∧ y = x := by
  rw [get?_insert, get?_empty, Option.ite_none_right_eq_some, Option.some.injEq, @eq_comm _ x]

theorem get?_foldl_insert (d : Dict α) (l : List (String × α)) (k : String) :
    (l.foldl (fun d e => d.insert e.1 e.2) d).get? k = (l.reverse.lookup k).or (d.get? k) := by
  induction l generalizing d with
  | nil => rfl
  | cons e l ih =>
    rw [List.foldl_cons, ih, get?_insert, List.reverse_cons, List.lookup_append, Option.or_assoc,
      lookup_cons_ite, List.lookup_nil]
    split <;> rfl

theorem get?_ofList (l : List (String × α)) (k : String) :
    (ofList l).get? k = l.reverse.lookup k := by
  rw [ofList, get?_foldl_insert, get?_empty, Option.or_none]

theorem lookup_filter_ne (k k' : String) (l : List (String × α)) :
    (l.filter fun e => e.1 ≠ k).lookup k' = if k' = k then none else l.lookup k' := by
  induction l with
  | nil => simp
  | cons b r ih =>
    obtain ⟨kb, xb⟩ := b
    by_cases hb : kb = k
    · subst hb
      rw [List.filter_cons_of_neg (by simp), ih, lookup_cons_ite]
      by_cases h : k' = kb <;> simp [h]
    · rw [List.filter_cons_of_pos (by simpa using hb), lookup_cons_ite, lookup_cons_ite, ih]
      by_cases h : k' = kb
      · rw [if_pos h, if_pos h, if_neg (h ▸ hb)]
      · rw [if_neg h, if_neg h]

theorem get?_erase (d : Dict α) (k k' : String) :
    (d.erase k).get? k' = if k' = k then none else d.get? k' :=
  lookup_filter_ne k k' d.entries

theorem lookup_eq_some_iff {k : String} {x : α} {l : List (String × α)}
    (h : l.Pairwise fun a b => a.1 < b.1) : l.lookup k = some x ↔ (k, x) ∈ l := by
  induction l with
  | nil => simp
  | cons b r ih =>
    obtain ⟨kb, xb⟩ := b
    have hb := (List.pairwise_cons.1 h).1
    rw [lookup_cons_ite, List.mem_cons]
    by_cases hk : k = kb
    · subst hk
      have hr : (k, x) ∉ r := fun hm => String.lt_irrefl k (hb (k, x) hm)
      simp [hr, eq_comm]
    · rw [if_neg hk, ih h.of_cons]
      simp [hk]

/-- A look-up finds exactly the entries. -/
theorem get?_eq_some_iff {d : Dict α} {k : String} {x : α} :
    d.get? k = some x ↔ (k, x) ∈ d.entries :=
  lookup_eq_some_iff d.sorted

/-! ## Equality -/

theorem lookup_eq_none_of_lt {k : String} {l : List (String × α)} (h : ∀ e ∈ l, k < e.1) :
    l.lookup k = none := by
  induction l with
  | nil => rfl
  | cons b r ih =>
    have hb := h b List.mem_cons_self
    obtain ⟨kb, xb⟩ := b
    rw [lookup_cons_ite, if_neg fun he : k = kb => String.lt_irrefl k (he ▸ hb)]
    exact ih fun e he => h e (List.mem_cons_of_mem _ he)

theorem entries_ext {l m : List (String × α)} (hl : l.Pairwise fun a b => a.1 < b.1)
    (hm : m.Pairwise fun a b => a.1 < b.1) (h : ∀ k, l.lookup k = m.lookup k) : l = m := by
  induction l generalizing m with
  | nil =>
    cases m with
    | nil => rfl
    | cons b r =>
      obtain ⟨kb, xb⟩ := b
      simpa [lookup_cons_ite] using h kb
  | cons a r ih =>
    cases m with
    | nil =>
      obtain ⟨ka, xa⟩ := a
      simpa [lookup_cons_ite] using h ka
    | cons b t =>
      obtain ⟨ka, xa⟩ := a
      obtain ⟨kb, xb⟩ := b
      have ha := (List.pairwise_cons.1 hl).1
      have hb := (List.pairwise_cons.1 hm).1
      have hk : ka = kb := by
        refine String.le_antisymm (String.not_lt.1 fun hlt => ?_) (String.not_lt.1 fun hlt => ?_)
        · have := h kb
          rw [lookup_eq_none_of_lt fun e he => ?_, lookup_cons_ite, if_pos rfl] at this
          · simp at this
          · rcases List.mem_cons.1 he with rfl | he
            · exact hlt
            · exact String.lt_trans hlt (ha e he)
        · have := h ka
          rw [lookup_eq_none_of_lt (l := (kb, xb) :: t) fun e he => ?_, lookup_cons_ite,
            if_pos rfl] at this
          · simp at this
          · rcases List.mem_cons.1 he with rfl | he
            · exact hlt
            · exact String.lt_trans hlt (hb e he)
      subst hk
      have hx : xa = xb := by simpa [lookup_cons_ite] using h ka
      subst hx
      rw [ih hl.of_cons hm.of_cons fun k => ?_]
      by_cases hk : k = ka
      · subst hk
        rw [lookup_eq_none_of_lt ha, lookup_eq_none_of_lt hb]
      · simpa [lookup_cons_ite, hk] using h k

/-- Dictionaries with the same look-ups are equal. -/
theorem ext_get? {d e : Dict α} (h : ∀ k, d.get? k = e.get? k) : d = e := by
  obtain ⟨l, hl⟩ := d
  obtain ⟨m, hm⟩ := e
  simp only [entries_ext hl hm h]

/-! ## Entries, values and size -/

theorem contains_eq_false_iff {d : Dict α} {k : String} :
    d.contains k = false ↔ d.get? k = none := by
  simp [contains]

theorem mem_values_iff {d : Dict α} {x : α} : x ∈ d.values ↔ ∃ k, d.get? k = some x := by
  simp only [values, List.mem_map, get?_eq_some_iff]
  constructor
  · rintro ⟨⟨k, y⟩, hm, rfl⟩
    exact ⟨k, hm⟩
  · rintro ⟨k, hm⟩
    exact ⟨(k, x), hm, rfl⟩

theorem isEmpty_eq_false_iff {d : Dict α} : d.isEmpty = false ↔ ∃ k x, d.get? k = some x := by
  simp only [isEmpty, List.isEmpty_eq_false_iff_exists_mem, get?_eq_some_iff, Prod.exists]

theorem insertEntry_perm {k : String} {x : α} {l : List (String × α)} (h : l.lookup k = none) :
    (insertEntry k x l).Perm ((k, x) :: l) := by
  induction l with
  | nil => exact .refl _
  | cons b r ih =>
    obtain ⟨kb, xb⟩ := b
    rw [lookup_cons_ite] at h
    simp only [insertEntry]
    split
    · exact .refl _
    · split
      · rename_i hk
        rw [if_pos hk] at h
        cases h
      · rename_i hk
        rw [if_neg hk] at h
        exact ((ih h).cons _).trans (.swap _ _ _)

theorem entries_insert_perm {d : Dict α} {k : String} (h : d.get? k = none) (x : α) :
    (d.insert k x).entries.Perm ((k, x) :: d.entries) :=
  insertEntry_perm h

theorem perm_cons_filter_ne {k : String} {x : α} {l : List (String × α)}
    (hs : l.Pairwise fun a b => a.1 < b.1) (h : l.lookup k = some x) :
    l.Perm ((k, x) :: l.filter fun e => e.1 ≠ k) := by
  induction l with
  | nil => cases h
  | cons b r ih =>
    obtain ⟨kb, xb⟩ := b
    have hb := (List.pairwise_cons.1 hs).1
    rw [lookup_cons_ite] at h
    by_cases hk : k = kb
    · subst hk
      rw [if_pos rfl, Option.some.injEq] at h
      subst h
      -- every later key is greater, so nothing else goes
      have hr : (r.filter fun e => e.1 ≠ k) = r := by
        refine List.filter_eq_self.2 fun e he => ?_
        simpa using fun he' : e.1 = k => String.lt_irrefl k (he' ▸ hb e he)
      rw [List.filter_cons_of_neg (by simp), hr]
    · rw [if_neg hk] at h
      rw [List.filter_cons_of_pos (by simpa using Ne.symm hk)]
      exact ((ih hs.of_cons h).cons _).trans (.swap _ _ _)

theorem entries_perm_erase {d : Dict α} {k : String} {x : α} (h : d.get? k = some x) :
    d.entries.Perm ((k, x) :: (d.erase k).entries) :=
  perm_cons_filter_ne d.sorted h

theorem size_insert {d : Dict α} {k : String} (h : d.get? k = none) (x : α) :
    (d.insert k x).size = d.size + 1 :=
  (entries_insert_perm h x).length_eq

theorem size_erase {d : Dict α} {k : String} {x : α} (h : d.get? k = some x) :
    d.size = (d.erase k).size + 1 :=
  (entries_perm_erase h).length_eq

end Dict

end Registrar
