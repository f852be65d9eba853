import Registrar.Proofs.Distinct
import Mathlib.Data.List.FinRange

/-!
# The claims of a list, place by place

A list may hold one claim at several places, so what becomes of it is said of places here.
`IsFirst cs i` says that no earlier claim has the key of the one at `i`, and `Repeats cs j i` that
`j` is the first place with its key and comes earlier. Each place is the first with its key or
repeats one that is (`isFirst_or_repeats`). `distinctClaims` keeps the former and reports those of
the latter at which the action is another one (`distinctClaims_places`).
-/

namespace Registrar

variable {cs : List Claim}

/-! ## Places -/

/-- No claim before the place has the key of the one at it. -/
def IsFirst (cs : List Claim) (i : Fin cs.length) : Prop := ∀ j < i, (cs.get j).key ≠ (cs.get i).key

instance (cs : List Claim) (i : Fin cs.length) : Decidable (IsFirst cs i) :=
  inferInstanceAs (Decidable (∀ j < i, (cs.get j).key ≠ (cs.get i).key))

/-- The claim at `i` has the key of an earlier one, of which `j` is the first place. -/
structure Repeats (cs : List Claim) (j i : Fin cs.length) : Prop where
  first : IsFirst cs j
  before : j < i
  key : (cs.get j).key = (cs.get i).key

/-- The claim at the place repeats a key for another action. -/
def Disputes (cs : List Claim) (i : Fin cs.length) : Prop :=
  ∃ j, Repeats cs j i ∧ (cs.get j).action ≠ (cs.get i).action

theorem isFirst_zero {c : Claim} {cs : List Claim} : IsFirst (c :: cs) 0 := fun _ hj => nomatch hj

theorem isFirst_succ_iff {c : Claim} {cs : List Claim} {i : Fin cs.length} :
    IsFirst (c :: cs) i.succ ↔ c.key ≠ (cs.get i).key ∧ IsFirst cs i := by
  unfold IsFirst
  refine Fin.forall_fin_succ.trans (and_congr ?_ (forall_congr' fun j => ?_))
  · exact ⟨fun h => h (Fin.succ_pos i), fun h _ => h⟩
  · rw [Fin.succ_lt_succ_iff]
    rfl

/-- A search for a key ends at the first place with it. -/
theorem find?_key_eq_some_iff {k : String} {first : Claim} :
    cs.find? (·.key = k) = some first ↔
      ∃ j, IsFirst cs j ∧ (cs.get j).key = k ∧ cs.get j = first := by
  rw [List.find?_eq_some_iff_getElem]
  simp only [decide_eq_true_eq, Bool.not_eq_true', decide_eq_false_iff_not]
  constructor
  · rintro ⟨rfl, j, hj, rfl, hbefore⟩
    exact ⟨⟨j, hj⟩, fun l hl => hbefore l hl, rfl, rfl⟩
  · rintro ⟨j, hj, rfl, rfl⟩
    exact ⟨rfl, j, j.isLt, rfl, fun l hl => hj ⟨l, hl.trans j.isLt⟩ hl⟩

theorem isFirst_or_repeats (cs : List Claim) (i : Fin cs.length) :
    IsFirst cs i ∨ ∃ j, Repeats cs j i := by
  obtain ⟨first, -, hf, -⟩ := exists_first_key (List.get_mem cs i)
  obtain ⟨j, hj, hk, -⟩ := find?_key_eq_some_iff.1 hf
  rcases lt_trichotomy j i with hlt | rfl | hgt
  · exact .inr ⟨j, hj, hlt, hk⟩
  · exact .inl hj
  · exact absurd hk.symm (hj i hgt)

theorem clash?_get_eq_some_iff {i : Fin cs.length} {x : Conflict} :
    (cs.get i).clash? cs = some x ↔ ∃ j, Repeats cs j i ∧
      (cs.get j).action ≠ (cs.get i).action ∧ x = (cs.get i).conflict (cs.get j).owner := by
  rw [Claim.clash?_eq_some_iff]
  simp only [find?_key_eq_some_iff]
  constructor
  · rintro ⟨first, ⟨j, hj, hk, rfl⟩, ha, rfl⟩
    rcases lt_trichotomy j i with hlt | rfl | hgt
    · exact ⟨j, ⟨hj, hlt, hk⟩, ha, rfl⟩
    · exact absurd rfl ha
    · exact absurd hk.symm (hj i hgt)
  · rintro ⟨j, hr, ha, rfl⟩
    exact ⟨cs.get j, ⟨j, hr.first, hr.key, rfl⟩, ha, rfl⟩

theorem isSome_clash?_get_iff {i : Fin cs.length} :
    ((cs.get i).clash? cs).isSome = true ↔ Disputes cs i := by
  simp only [Option.isSome_iff_exists, clash?_get_eq_some_iff, Disputes]
  constructor
  · rintro ⟨_, j, hr, ha, -⟩
    exact ⟨j, hr, ha⟩
  · rintro ⟨j, hr, ha⟩
    exact ⟨_, j, hr, ha, rfl⟩

instance (cs : List Claim) (i : Fin cs.length) : Decidable (Disputes cs i) :=
  decidable_of_iff _ isSome_clash?_get_iff

/-! ## What is kept and what is reported -/

theorem places_cons (c : Claim) (cs : List Claim) (p : Fin (c :: cs).length → Bool) :
    ((List.finRange (c :: cs).length).filter p).map (c :: cs).get =
      (if p 0 = true then [c] else []) ++
        ((List.finRange cs.length).filter fun i => p i.succ).map cs.get := by
  have hrange : List.finRange (c :: cs).length = 0 :: (List.finRange cs.length).map Fin.succ :=
    List.finRange_succ
  rw [hrange, List.filter_cons, List.filter_map]
  split <;> simp [Function.comp_def]

theorem distinctFrom_places (kept cs : List Claim) :
    (distinctFrom kept cs).1 = ((List.finRange cs.length).filter fun i =>
      (∀ d ∈ kept, d.key ≠ (cs.get i).key) ∧ IsFirst cs i).map cs.get := by
  induction cs generalizing kept with
  | nil => rfl
  | cons c cs ih =>
    rw [places_cons]
    rcases new_or_repeat kept c with hn | ⟨first, hf, hm, hk⟩
    · have hhead : (∀ d ∈ kept, d.key ≠ ((c :: cs).get 0).key) ∧ IsFirst (c :: cs) 0 :=
        ⟨hn, isFirst_zero⟩
      rw [distinctFrom_cons_new hn, ih, if_pos (decide_eq_true hhead), List.singleton_append]
      refine congrArg (List.cons c) (congrArg (List.map cs.get) ?_)
      refine List.filter_congr fun i _ => decide_eq_decide.2 ?_
      rw [List.forall_mem_cons, isFirst_succ_iff, and_assoc, and_left_comm]
      rfl
    · have hhead : ¬ ((∀ d ∈ kept, d.key ≠ ((c :: cs).get 0).key) ∧ IsFirst (c :: cs) 0) :=
        fun h => h.1 first hm hk
      rw [distinctFrom_cons_repeat hf, ih, if_neg (mt of_decide_eq_true hhead), List.nil_append]
      refine congrArg (List.map cs.get) (List.filter_congr fun i _ => decide_eq_decide.2 ?_)
      rw [isFirst_succ_iff]
      -- the key of `c` is that of a claim which is kept
      exact and_congr_right fun hkept => (and_iff_right (hk ▸ hkept first hm)).symm

theorem forall₂_filter_filterMap {α β : Type} {f : α → Option β} {p : α → Prop} [DecidablePred p]
    {R : α → β → Prop} (hp : ∀ a, (f a).isSome = true ↔ p a) (hR : ∀ a b, f a = some b → R a b)
    (l : List α) : List.Forall₂ R (l.filter (p ·)) (l.filterMap f) := by
  induction l with
  | nil => exact .nil
  | cons a l ih =>
    cases hf : f a with
    | none =>
      have ha : ¬ p a := fun h => by simpa [hf] using (hp a).2 h
      rwa [List.filter_cons_of_neg (by simpa using ha), List.filterMap_cons_none hf]
    | some b =>
      have ha : p a := (hp a).1 (by rw [hf]; rfl)
      rw [List.filter_cons_of_pos (by simpa using ha), List.filterMap_cons_some hf]
      exact .cons (hR a b hf) ih

/-- Place by place: kept is the claim at each first place, in order, and reported is each claim that
repeats a key for another action, in order, as a conflict with the first claim of the key. Whatever
is neither repeats a claim that is kept, with its key and its action. Nothing is reported exactly if
claims with one key have one action. -/
theorem distinctClaims_places (cs : List Claim) :
    (distinctClaims cs).1 = ((List.finRange cs.length).filter (IsFirst cs ·)).map cs.get ∧
    List.Forall₂ (fun i x => ∃ j, Repeats cs j i ∧ x = (cs.get i).conflict (cs.get j).owner)
      ((List.finRange cs.length).filter (Disputes cs ·)) (distinctClaims cs).2 ∧
    (∀ i, IsFirst cs i ∨ Disputes cs i ∨
      ∃ j, Repeats cs j i ∧ (cs.get j).action = (cs.get i).action) ∧
    ((distinctClaims cs).2 = [] ↔ ∀ c ∈ cs, ∀ d ∈ cs, c.key = d.key → c.action = d.action) := by
  refine ⟨?_, ?_, fun i => ?_, distinctClaims_conflicts_eq_nil_iff cs⟩
  · rw [distinctClaims, distinctFrom_places]
    simp
  · have hmap : (distinctClaims cs).2 =
        (List.finRange cs.length).filterMap fun i => (cs.get i).clash? cs :=
      calc (distinctClaims cs).2
        _ = cs.filterMap (Claim.clash? cs) := distinctClaims_conflicts cs
        _ = ((List.finRange cs.length).map cs.get).filterMap (Claim.clash? cs) := by
          rw [List.map_get_finRange]
        _ = _ := List.filterMap_map
    rw [hmap]
    refine forall₂_filter_filterMap (fun _ => isSome_clash?_get_iff) (fun i x hx => ?_) _
    obtain ⟨j, hr, -, rfl⟩ := clash?_get_eq_some_iff.1 hx
    exact ⟨j, hr, rfl⟩
  · rcases isFirst_or_repeats cs i with h | ⟨j, hr⟩
    · exact .inl h
    · by_cases ha : (cs.get j).action = (cs.get i).action
      · exact .inr (.inr ⟨j, hr, ha⟩)
      · exact .inr (.inl ⟨j, hr, ha⟩)

end Registrar
