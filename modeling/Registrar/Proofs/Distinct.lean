import Registrar.Registry
import Mathlib.Data.Finset.Card
import Mathlib.Data.List.Nodup

/-!
# The distinct claims of a list

`distinctClaims` keeps the first claim of each key (`mem_distinctClaims_iff`) and reports a later
one where its action is not that of the first (`distinctClaims_conflicts`). What is kept has
pairwise distinct keys (`distinctClaims_pairwise`), in the order of the list
(`distinctClaims_sublist`), and every key of the list (`exists_distinct_key`), so as many claims are
kept as there are keys (`length_distinctClaims`); nothing is reported exactly if claims that share a
key share the action (`distinctClaims_conflicts_eq_nil_iff`). A part of the list that holds all
claims of a key or none has the distinct claims of the list that are in it
(`distinctClaims_filter`). The inductions on the list are for any claims `kept` from before.
-/

namespace Registrar

/-! ## One claim -/

theorem distinctFrom_cons_new {kept : List Claim} {c : Claim} (h : ∀ d ∈ kept, d.key ≠ c.key)
    (cs : List Claim) :
    distinctFrom kept (c :: cs) =
      (c :: (distinctFrom (c :: kept) cs).1, (distinctFrom (c :: kept) cs).2) := by
  have hf : kept.find? (·.key = c.key) = none := by
    rw [List.find?_eq_none]
    simpa using h
  simp only [distinctFrom, hf]

theorem distinctFrom_cons_repeat {kept : List Claim} {c first : Claim}
    (h : kept.find? (·.key = c.key) = some first) (cs : List Claim) :
    distinctFrom kept (c :: cs) =
      ((distinctFrom kept cs).1,
        if first.action = c.action then (distinctFrom kept cs).2
        else c.conflict first.owner :: (distinctFrom kept cs).2) := by
  simp only [distinctFrom, h]

theorem of_find?_key {cs : List Claim} {k : String} {c : Claim}
    (h : cs.find? (·.key = k) = some c) : c ∈ cs ∧ c.key = k :=
  ⟨List.mem_of_find?_eq_some h, by simpa using List.find?_some h⟩

/-- Either the key of a claim is new, or the claim repeats that of one that is kept. -/
theorem new_or_repeat (kept : List Claim) (c : Claim) :
    (∀ d ∈ kept, d.key ≠ c.key) ∨
      ∃ first, kept.find? (·.key = c.key) = some first ∧ first ∈ kept ∧ first.key = c.key := by
  cases h : kept.find? (·.key = c.key) with
  | none => exact .inl (by simpa using List.find?_eq_none.1 h)
  | some first => exact .inr ⟨first, rfl, of_find?_key h⟩

/-! ## What is kept -/

theorem eq_of_key_eq {cs : List Claim} (h : cs.Pairwise fun c d => c.key ≠ d.key) {c d : Claim}
    (hc : c ∈ cs) (hd : d ∈ cs) (hk : c.key = d.key) : c = d :=
  List.inj_on_of_nodup_map (List.pairwise_map.2 h) hc hd hk

theorem distinctFrom_sublist (kept cs : List Claim) : (distinctFrom kept cs).1.Sublist cs := by
  induction cs generalizing kept with
  | nil => exact .refl _
  | cons c cs ih =>
    rcases new_or_repeat kept c with h | ⟨first, h, -⟩
    · rw [distinctFrom_cons_new h]
      exact (ih _).cons_cons c
    · rw [distinctFrom_cons_repeat h]
      exact (ih _).cons c

theorem distinctFrom_pairwise (kept cs : List Claim) :
    (∀ c ∈ (distinctFrom kept cs).1, ∀ d ∈ kept, d.key ≠ c.key) ∧
      (distinctFrom kept cs).1.Pairwise fun c d => c.key ≠ d.key := by
  induction cs generalizing kept with
  | nil => exact ⟨by simp [distinctFrom], .nil⟩
  | cons c cs ih =>
    rcases new_or_repeat kept c with h | ⟨first, h, -⟩
    · rw [distinctFrom_cons_new h]
      obtain ⟨hkept, hpair⟩ := ih (c :: kept)
      refine ⟨fun d hd e he => ?_, List.pairwise_cons.2 ⟨fun d hd => ?_, hpair⟩⟩
      · rcases List.mem_cons.1 hd with rfl | hd
        · exact h e he
        · exact hkept d hd e (List.mem_cons_of_mem _ he)
      · exact hkept d hd c List.mem_cons_self
    · rw [distinctFrom_cons_repeat h]
      exact ih kept

/-- What is kept of claims after others is the first claim of each key that is new. -/
theorem mem_distinctFrom_iff {kept cs : List Claim} {c : Claim} :
    c ∈ (distinctFrom kept cs).1 ↔
      (∀ d ∈ kept, d.key ≠ c.key) ∧ cs.find? (·.key = c.key) = some c := by
  induction cs generalizing kept with
  | nil => simp [distinctFrom]
  | cons a cs ih =>
    rcases new_or_repeat kept a with hn | ⟨first, hf, hm, hk⟩
    · rw [distinctFrom_cons_new hn, List.mem_cons, ih, List.forall_mem_cons]
      by_cases hac : a.key = c.key
      · rw [List.find?_cons_of_pos (by simpa using hac), Option.some.injEq]
        refine ⟨?_, fun h => .inl h.2.symm⟩
        rintro (rfl | ⟨⟨hne, -⟩, -⟩)
        · exact ⟨hn, rfl⟩
        · exact absurd hac hne
      · rw [List.find?_cons_of_neg (by simpa using hac)]
        refine ⟨?_, fun h => .inr ⟨⟨hac, h.1⟩, h.2⟩⟩
        rintro (rfl | ⟨⟨-, hkept⟩, hfind⟩)
        · exact absurd rfl hac
        · exact ⟨hkept, hfind⟩
    · rw [distinctFrom_cons_repeat hf, ih]
      refine and_congr_right fun hkept => ?_
      rw [List.find?_cons_of_neg (by simpa [← hk] using hkept first hm)]

/-! ## What is reported -/

/-- The conflict of a claim with the first one that has its key, if that is for another action. -/
def Claim.clash? (cs : List Claim) (c : Claim) : Option Conflict :=
  ((cs.find? (·.key = c.key)).filter (·.action ≠ c.action)).map fun first => c.conflict first.owner

theorem Claim.clash?_eq_some_iff {cs : List Claim} {c : Claim} {x : Conflict} :
    c.clash? cs = some x ↔ ∃ first, cs.find? (·.key = c.key) = some first ∧
      first.action ≠ c.action ∧ x = c.conflict first.owner := by
  simp only [clash?, Option.map_eq_some_iff, Option.filter_eq_some_iff, decide_eq_true_eq,
    and_assoc, @eq_comm _ _ x]

theorem Claim.clash?_eq_none_iff {cs : List Claim} {c : Claim} :
    c.clash? cs = none ↔
      ∀ first, cs.find? (·.key = c.key) = some first → first.action = c.action := by
  simp [clash?, Option.map_eq_none_iff, Option.filter_eq_none_iff]

theorem clash?_congr {cs ds : List Claim}
    (h : ∀ k, cs.find? (·.key = k) = ds.find? (·.key = k)) : Claim.clash? cs = Claim.clash? ds := by
  funext c
  unfold Claim.clash?
  rw [h]

/-- A claim with a new key can go before those that are kept. -/
theorem find?_append_cons_new {kept : List Claim} {c : Claim} (h : ∀ d ∈ kept, d.key ≠ c.key)
    (cs : List Claim) (k : String) :
    (kept ++ c :: cs).find? (·.key = k) = (c :: kept ++ cs).find? (·.key = k) := by
  rw [List.cons_append, List.find?_append, List.find?_cons, List.find?_cons, List.find?_append]
  by_cases hk : c.key = k
  · have hnone : kept.find? (·.key = k) = none := by
      rw [List.find?_eq_none]
      simpa [← hk] using h
    rw [hnone, decide_eq_true hk]
    rfl
  · rw [decide_eq_false hk]

/-- A claim that repeats a key can be left out. -/
theorem find?_append_cons_repeat {kept : List Claim} {c first : Claim}
    (h : kept.find? (·.key = c.key) = some first) (cs : List Claim) (k : String) :
    (kept ++ c :: cs).find? (·.key = k) = (kept ++ cs).find? (·.key = k) := by
  rw [List.find?_append, List.find?_append, List.find?_cons]
  by_cases hk : c.key = k
  · rw [← hk, h]
    rfl
  · rw [decide_eq_false hk]

/-- What is reported are the conflicts with the first claim of each key. -/
theorem distinctFrom_conflicts (kept cs : List Claim) :
    (distinctFrom kept cs).2 = cs.filterMap (Claim.clash? (kept ++ cs)) := by
  induction cs generalizing kept with
  | nil => rfl
  | cons c cs ih =>
    rcases new_or_repeat kept c with hn | ⟨first, hf, -⟩
    · have hself : c.clash? (kept ++ c :: cs) = none := by
        unfold Claim.clash?
        rw [find?_append_cons_new hn, List.cons_append, List.find?_cons_of_pos (by simp)]
        simp [Option.filter]
      rw [distinctFrom_cons_new hn, ih, List.filterMap_cons_none hself,
        clash?_congr (find?_append_cons_new hn cs)]
    · rw [distinctFrom_cons_repeat hf, ih, List.filterMap_cons,
        clash?_congr (find?_append_cons_repeat hf cs)]
      have hfirst : (kept ++ cs).find? (·.key = c.key) = some first := by
        rw [List.find?_append, hf]
        rfl
      by_cases ha : first.action = c.action <;> simp [Claim.clash?, hfirst, Option.filter, ha]

/-! ## Parts of a list -/

/-- Where claims that share a key are in a part of the list together, the distinct claims of the
part are those of the list that are in the part. -/
theorem distinctFrom_filter {p : Claim → Bool} (hp : ∀ c d : Claim, c.key = d.key → p c = p d)
    (kept cs : List Claim) :
    (distinctFrom kept cs).1.filter p = (distinctFrom (kept.filter p) (cs.filter p)).1 := by
  induction cs generalizing kept with
  | nil => rfl
  | cons c cs ih =>
    rcases new_or_repeat kept c with hn | ⟨first, hf, hm, hk⟩
    · rw [distinctFrom_cons_new hn]
      by_cases hc : p c = true
      · have hn' : ∀ d ∈ kept.filter p, d.key ≠ c.key :=
          fun d hd => hn d (List.mem_of_mem_filter hd)
        rw [List.filter_cons_of_pos hc, List.filter_cons_of_pos hc, distinctFrom_cons_new hn', ih,
          List.filter_cons_of_pos hc]
      · rw [List.filter_cons_of_neg hc, List.filter_cons_of_neg hc, ih, List.filter_cons_of_neg hc]
    · rw [distinctFrom_cons_repeat hf, ih]
      by_cases hc : p c = true
      · -- the claim that is repeated is in the part, and still the first with the key
        have hf' : (kept.filter p).find? (·.key = c.key) = some first := by
          rw [List.find?_filter, ← hf]
          refine congrArg (kept.find? ·) (funext fun d => ?_)
          by_cases hd : d.key = c.key
          · simp [hd, hp d c hd, hc]
          · simp [hd]
        rw [List.filter_cons_of_pos hc, distinctFrom_cons_repeat hf']
      · rw [List.filter_cons_of_neg hc]

/-! ## From nothing kept -/

theorem distinctClaims_sublist (cs : List Claim) : (distinctClaims cs).1.Sublist cs :=
  distinctFrom_sublist [] cs

theorem distinctClaims_pairwise (cs : List Claim) :
    (distinctClaims cs).1.Pairwise fun c d => c.key ≠ d.key :=
  (distinctFrom_pairwise [] cs).2

theorem mem_distinctClaims_iff {cs : List Claim} {c : Claim} :
    c ∈ (distinctClaims cs).1 ↔ cs.find? (·.key = c.key) = some c :=
  mem_distinctFrom_iff.trans (and_iff_right (List.forall_mem_nil _))

theorem exists_first_key {cs : List Claim} {c : Claim} (h : c ∈ cs) :
    ∃ first ∈ cs, cs.find? (·.key = c.key) = some first ∧ first.key = c.key := by
  have hsome : (cs.find? (·.key = c.key)).isSome := List.find?_isSome.2 ⟨c, h, by simp⟩
  obtain ⟨first, hf⟩ := Option.isSome_iff_exists.1 hsome
  exact ⟨first, (of_find?_key hf).1, hf, (of_find?_key hf).2⟩

theorem exists_distinct_key {cs : List Claim} {c : Claim} (h : c ∈ cs) :
    ∃ d ∈ (distinctClaims cs).1, d.key = c.key := by
  obtain ⟨first, -, hf, hk⟩ := exists_first_key h
  exact ⟨first, mem_distinctClaims_iff.2 (by rw [hk, hf]), hk⟩

theorem length_distinctClaims (cs : List Claim) :
    (distinctClaims cs).1.length = (cs.map (·.key)).toFinset.card := by
  have hnodup : ((distinctClaims cs).1.map (·.key)).Nodup :=
    List.pairwise_map.2 (distinctClaims_pairwise cs)
  have hkeys : ((distinctClaims cs).1.map (·.key)).toFinset = (cs.map (·.key)).toFinset := by
    ext k
    simp only [List.mem_toFinset, List.mem_map]
    constructor
    · rintro ⟨c, hc, rfl⟩
      exact ⟨c, (distinctClaims_sublist cs).subset hc, rfl⟩
    · rintro ⟨c, hc, rfl⟩
      exact exists_distinct_key hc
  rw [← hkeys, List.toFinset_card_of_nodup hnodup, List.length_map]

theorem distinctClaims_conflicts (cs : List Claim) :
    (distinctClaims cs).2 = cs.filterMap (Claim.clash? cs) :=
  distinctFrom_conflicts [] cs

theorem distinctClaims_conflicts_eq_nil_iff (cs : List Claim) :
    (distinctClaims cs).2 = [] ↔ ∀ c ∈ cs, ∀ d ∈ cs, c.key = d.key → c.action = d.action := by
  rw [distinctClaims_conflicts, List.filterMap_eq_nil_iff]
  refine ⟨fun h c hc d hd hk => ?_, fun h c hc => Claim.clash?_eq_none_iff.2 fun first hf => ?_⟩
  · -- both have the action of the first claim with the key
    obtain ⟨first, -, hf, -⟩ := exists_first_key hc
    have hca := Claim.clash?_eq_none_iff.1 (h c hc) first hf
    rw [hk] at hf
    exact hca.symm.trans (Claim.clash?_eq_none_iff.1 (h d hd) first hf)
  · obtain ⟨hm, hk⟩ := of_find?_key hf
    exact h first hm c hc hk

theorem distinctClaims_filter {p : Claim → Bool} (hp : ∀ c d : Claim, c.key = d.key → p c = p d)
    (cs : List Claim) : (distinctClaims cs).1.filter p = (distinctClaims (cs.filter p)).1 :=
  distinctFrom_filter hp [] cs

end Registrar
