import Registrar.Value

/-!
# How values are nested and ordered

`Value.depth` counts the containers that are nested in a value. `Value.Ordered` says that its
objects list their members by key, without repetition, as every object does that a document gives.
An ordered object is the one of its members (`Value.ofMembers_of_sorted`).
-/

namespace Registrar

namespace Value

/-! ## Depth and order -/

mutual

/-- How many containers are nested in the value, itself included. -/
def depth : Value → Nat
  | array xs => depthItems xs + 1
  | object ms => depthMembers ms + 1
  | _ => 0

/-- The greatest depth of items. -/
def depthItems : List Value → Nat
  | [] => 0
  | x :: xs => max x.depth (depthItems xs)

/-- The greatest depth of members. -/
def depthMembers : List (String × Value) → Nat
  | [] => 0
  | (_, x) :: ms => max x.depth (depthMembers ms)

end

mutual

/-- The members of every object in the value are ordered by key, without repetition. -/
def Ordered : Value → Prop
  | array xs => OrderedItems xs
  | object ms => (ms.Pairwise fun a b => a.1 < b.1) ∧ OrderedMembers ms
  | _ => True

/-- All items are ordered. -/
def OrderedItems : List Value → Prop
  | [] => True
  | x :: xs => x.Ordered ∧ OrderedItems xs

/-- The values of all members are ordered. -/
def OrderedMembers : List (String × Value) → Prop
  | [] => True
  | (_, x) :: ms => x.Ordered ∧ OrderedMembers ms

end

theorem depthItems_le_iff {xs : List Value} {n : Nat} :
    depthItems xs ≤ n ↔ ∀ x ∈ xs, x.depth ≤ n := by
  induction xs with
  | nil => simp [depthItems]
  | cons x xs ih => rw [depthItems, Nat.max_le, ih, List.forall_mem_cons]

theorem depthMembers_le_iff {ms : List (String × Value)} {n : Nat} :
    depthMembers ms ≤ n ↔ ∀ e ∈ ms, e.2.depth ≤ n := by
  induction ms with
  | nil => simp [depthMembers]
  | cons e ms ih => rw [depthMembers, Nat.max_le, ih, List.forall_mem_cons]

theorem orderedItems_iff {xs : List Value} : OrderedItems xs ↔ ∀ x ∈ xs, x.Ordered := by
  induction xs with
  | nil => simp [OrderedItems]
  | cons x xs ih => simp [OrderedItems, ih]

theorem orderedMembers_iff {ms : List (String × Value)} :
    OrderedMembers ms ↔ ∀ e ∈ ms, e.2.Ordered := by
  induction ms with
  | nil => simp [OrderedMembers]
  | cons e ms ih =>
    obtain ⟨k, x⟩ := e
    simp [OrderedMembers, ih]

end Value

namespace Dict

/-! ## Entries in their order -/

variable {α : Type}

theorem insertEntry_last {k : String} {x : α} {l : List (String × α)} (h : ∀ e ∈ l, e.1 < k) :
    insertEntry k x l = l ++ [(k, x)] := by
  induction l with
  | nil => rfl
  | cons e l ih =>
    have he := h e List.mem_cons_self
    have hlt : ¬ k < e.1 := fun hk => String.lt_irrefl k (String.lt_trans hk he)
    have hne : k ≠ e.1 := fun hk => String.lt_irrefl k (hk ▸ he)
    simp only [insertEntry, hlt, hne, if_false, List.cons_append]
    rw [ih fun e he => h e (List.mem_cons_of_mem _ he)]

/-- Entries that are put after all others keep their order. -/
theorem entries_foldl_insert {d : Dict α} {l : List (String × α)}
    (h : (d.entries ++ l).Pairwise fun a b => a.1 < b.1) :
    (l.foldl (fun d e => d.insert e.1 e.2) d).entries = d.entries ++ l := by
  induction l generalizing d with
  | nil => rw [List.append_nil]; rfl
  | cons e l ih =>
    have hlast : (d.insert e.1 e.2).entries = d.entries ++ [e] := by
      refine insertEntry_last fun a ha => ?_
      exact (List.pairwise_append.1 h).2.2 a ha e List.mem_cons_self
    rw [List.foldl_cons, ih (by rw [hlast, List.append_assoc]; exact h), hlast, List.append_assoc]
    rfl

theorem entries_ofList {l : List (String × α)} (h : l.Pairwise fun a b => a.1 < b.1) :
    (ofList l).entries = l :=
  entries_foldl_insert (d := ∅) h

theorem ofList_entries (d : Dict α) : ofList d.entries = d := by
  have h := entries_ofList d.sorted
  generalize ofList d.entries = e at h
  obtain ⟨l, hl⟩ := e
  obtain ⟨m, hm⟩ := d
  subst h
  rfl

theorem mem_of_mem_foldl {d : Dict α} {l : List (String × α)} {e : String × α}
    (h : e ∈ (l.foldl (fun d e => d.insert e.1 e.2) d).entries) : e ∈ d.entries ∨ e ∈ l := by
  induction l generalizing d with
  | nil => exact .inl h
  | cons a l ih =>
    rcases ih h with h | h
    · rcases mem_insertEntry h with rfl | h
      · exact .inr List.mem_cons_self
      · exact .inl h
    · exact .inr (List.mem_cons_of_mem _ h)

theorem mem_of_mem_ofList {l : List (String × α)} {e : String × α}
    (h : e ∈ (ofList l).entries) : e ∈ l :=
  (mem_of_mem_foldl h).resolve_left nofun

end Dict

theorem Value.ofMembers_of_sorted {ms : List (String × Value)}
    (h : ms.Pairwise fun a b => a.1 < b.1) : ofMembers ms = .object ms := by
  rw [ofMembers, Dict.entries_ofList h]

end Registrar
