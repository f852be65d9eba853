import Registrar.Registry

/-!
# What the path index holds

`(p.on t).get? k` is the claim that the path index `p` holds under the key `k` on the transport
`t`. For each operation on the index this file says what it does to that look-up, to the size, and
to `NoneEmpty` (no transport keeps an index without claims); then the same for a list of claims
that is entered (`foldl PathIndex.insert`) or taken out (`foldl PathIndex.erase`) one by one. With
`NoneEmpty` the look-ups determine the index (`NoneEmpty.ext`).
-/

namespace Registrar

/-- The claim belongs under the key `k` on the transport `t`. -/
def Claim.IsAt (c : Claim) (t : Transport) (k : String) : Prop := c.transport = t ∧ c.key = k

instance (c : Claim) (t : Transport) (k : String) : Decidable (c.IsAt t k) := by
  unfold Claim.IsAt; infer_instance

namespace PathIndex

/-- Every index of a transport holds a claim. -/
def NoneEmpty (p : PathIndex) : Prop := ∀ t d, p.index? t = some d → d.isEmpty = false

/-! ## One claim -/

theorem on_insert (p : PathIndex) (c : Claim) (t : Transport) :
    (p.insert c).on t = if t = c.transport then (p.on t).insert c.key c else p.on t := by
  unfold on insert
  rw [index?_alter]
  by_cases h : t = c.transport
  · subst h; simp
  · rw [if_neg h, if_neg h]

theorem on_erase (p : PathIndex) (c : Claim) (t : Transport) :
    (p.erase c).on t = if t = c.transport then (p.on t).erase c.key else p.on t := by
  unfold on erase
  rw [index?_alter]
  by_cases h : t = c.transport
  · subst h
    rw [if_pos rfl, if_pos rfl]
    cases p.index? c.transport <;> rfl
  · rw [if_neg h, if_neg h]

theorem on_prune (p : PathIndex) (t : Transport) : p.prune.on t = p.on t := by
  unfold on
  rw [index?_prune]
  cases h : p.index? t with
  | none => rfl
  | some d =>
    cases he : d.isEmpty with
    | false => simp [Option.filter, he]
    | true =>
      have hd : d = ∅ := by
        obtain ⟨l, hl⟩ := d
        cases l with
        | nil => rfl
        | cons e l => cases he
      subst hd
      rfl

theorem get?_insert (p : PathIndex) (c : Claim) (t : Transport) (k : String) :
    ((p.insert c).on t).get? k = if c.IsAt t k then some c else (p.on t).get? k := by
  rw [on_insert]
  by_cases ht : t = c.transport
  · subst ht
    rw [if_pos rfl, Dict.get?_insert]
    simp only [Claim.IsAt, true_and, eq_comm]
  · rw [if_neg ht, if_neg fun h => ht h.1.symm]

theorem get?_erase (p : PathIndex) (c : Claim) (t : Transport) (k : String) :
    ((p.erase c).on t).get? k = if c.IsAt t k then none else (p.on t).get? k := by
  rw [on_erase]
  by_cases ht : t = c.transport
  · subst ht
    rw [if_pos rfl, Dict.get?_erase]
    simp only [Claim.IsAt, true_and, eq_comm]
  · rw [if_neg ht, if_neg fun h => ht h.1.symm]

theorem size_insert {p : PathIndex} {c : Claim} (h : (p.on c.transport).get? c.key = none) :
    (p.insert c).size = p.size + 1 := by
  have hd := Dict.size_insert h c
  unfold size
  simp only [on_insert]
  cases ht : c.transport <;> rw [ht] at hd <;> simp only [hd, reduceIte, reduceCtorEq] <;> omega

theorem size_erase {p : PathIndex} {c d : Claim} (h : (p.on c.transport).get? c.key = some d) :
    p.size = (p.erase c).size + 1 := by
  have hd := Dict.size_erase h
  unfold size
  simp only [on_erase]
  cases ht : c.transport <;> rw [ht] at hd <;> simp only [hd, reduceIte, reduceCtorEq] <;> omega

theorem size_prune (p : PathIndex) : p.prune.size = p.size := by
  unfold size
  simp only [on_prune]

theorem NoneEmpty.insert {p : PathIndex} (h : p.NoneEmpty) (c : Claim) :
    (p.insert c).NoneEmpty := by
  intro t d hd
  unfold PathIndex.insert at hd
  rw [index?_alter] at hd
  split at hd
  · cases hd
    exact Dict.isEmpty_eq_false_iff.2 ⟨c.key, c, by rw [Dict.get?_insert, if_pos rfl]⟩
  · exact h t d hd

theorem noneEmpty_prune (p : PathIndex) : p.prune.NoneEmpty := by
  intro t d hd
  rw [index?_prune] at hd
  simpa using (Option.filter_eq_some_iff.1 hd).2

theorem ext_index? {p q : PathIndex} (h : ∀ t, p.index? t = q.index? t) : p = q := by
  obtain ⟨_, _, _, _, _⟩ := p
  obtain ⟨_, _, _, _, _⟩ := q
  rw [PathIndex.mk.injEq]
  exact ⟨h .http, h .cli, h .ws, h .webhook, h .grpc⟩

theorem NoneEmpty.index?_eq {p : PathIndex} (h : p.NoneEmpty) (t : Transport) :
    p.index? t = if (p.on t).isEmpty then none else some (p.on t) := by
  unfold on
  cases hd : p.index? t with
  | none => rfl
  | some d => rw [Option.getD_some, h t d hd, if_neg Bool.false_ne_true]

/-- Where no index is without claims, path indices that hold the same are equal. -/
theorem NoneEmpty.ext {p q : PathIndex} (hp : p.NoneEmpty) (hq : q.NoneEmpty)
    (h : ∀ t, p.on t = q.on t) : p = q :=
  ext_index? fun t => by rw [hp.index?_eq, hq.index?_eq, h]

/-! ## Lists of claims -/

theorem get?_foldl_insert {cs : List Claim} (hcs : cs.Pairwise fun c d => c.key ≠ d.key)
    (p : PathIndex) {t : Transport} {k : String} {c : Claim} :
    ((cs.foldl insert p).on t).get? k = some c ↔
      (c ∈ cs ∧ c.IsAt t k) ∨ ((∀ d ∈ cs, ¬ d.IsAt t k) ∧ (p.on t).get? k = some c) := by
  induction cs generalizing p with
  | nil => simp
  | cons a cs ih =>
    obtain ⟨ha, hcs⟩ := List.pairwise_cons.1 hcs
    rw [List.foldl_cons, ih hcs, get?_insert]
    by_cases hk : a.IsAt t k
    · -- `a` is the only claim of the list under this key
      have hno : ∀ d ∈ cs, ¬ d.IsAt t k := fun d hd h => ha d hd (hk.2.trans h.2.symm)
      rw [if_pos hk]
      constructor
      · rintro (⟨hm, h⟩ | ⟨-, h⟩)
        · exact absurd h (hno c hm)
        · cases h
          exact .inl ⟨List.mem_cons_self, hk⟩
      · rintro (⟨hm, h⟩ | ⟨h, -⟩)
        · rcases List.mem_cons.1 hm with rfl | hm
          · exact .inr ⟨hno, rfl⟩
          · exact absurd h (hno c hm)
        · exact absurd hk (h a List.mem_cons_self)
    · rw [if_neg hk]
      constructor
      · rintro (⟨hm, h⟩ | ⟨hno, h⟩)
        · exact .inl ⟨List.mem_cons_of_mem _ hm, h⟩
        · exact .inr ⟨List.forall_mem_cons.2 ⟨hk, hno⟩, h⟩
      · rintro (⟨hm, h⟩ | ⟨hno, h⟩)
        · rcases List.mem_cons.1 hm with rfl | hm
          · exact absurd h hk
          · exact .inl ⟨hm, h⟩
        · exact .inr ⟨(List.forall_mem_cons.1 hno).2, h⟩

theorem get?_foldl_erase (cs : List Claim) (p : PathIndex) (t : Transport) (k : String) :
    ((cs.foldl erase p).on t).get? k =
      if ∃ c ∈ cs, c.IsAt t k then none else (p.on t).get? k := by
  induction cs generalizing p with
  | nil => simp
  | cons a cs ih =>
    rw [List.foldl_cons, ih, get?_erase]
    by_cases hk : a.IsAt t k <;> by_cases hcs : ∃ c ∈ cs, c.IsAt t k <;>
      simp only [hk, hcs, List.mem_cons, exists_eq_or_imp, true_or, or_true, or_self, if_true,
        if_false]

theorem size_foldl_insert {cs : List Claim} (hcs : cs.Pairwise fun c d => c.key ≠ d.key)
    {p : PathIndex} (hp : ∀ c ∈ cs, (p.on c.transport).get? c.key = none) :
    (cs.foldl insert p).size = p.size + cs.length := by
  induction cs generalizing p with
  | nil => rfl
  | cons a cs ih =>
    obtain ⟨ha, hcs⟩ := List.pairwise_cons.1 hcs
    have hnew : ∀ c ∈ cs, ((p.insert a).on c.transport).get? c.key = none := by
      intro c hc
      rw [get?_insert, if_neg fun h => ha c hc h.2]
      exact hp c (List.mem_cons_of_mem _ hc)
    rw [List.foldl_cons, ih hcs hnew, size_insert (hp a List.mem_cons_self), List.length_cons]
    omega

theorem size_foldl_erase {cs : List Claim} (hcs : cs.Pairwise fun c d => c.key ≠ d.key)
    {p : PathIndex} (hp : ∀ c ∈ cs, (p.on c.transport).get? c.key = some c) :
    p.size = (cs.foldl erase p).size + cs.length := by
  induction cs generalizing p with
  | nil => rfl
  | cons a cs ih =>
    obtain ⟨ha, hcs⟩ := List.pairwise_cons.1 hcs
    have hstay : ∀ c ∈ cs, ((p.erase a).on c.transport).get? c.key = some c := by
      intro c hc
      rw [get?_erase, if_neg fun h => ha c hc h.2]
      exact hp c (List.mem_cons_of_mem _ hc)
    rw [List.foldl_cons, size_erase (hp a List.mem_cons_self), ih hcs hstay, List.length_cons]
    omega

theorem NoneEmpty.foldl_insert {p : PathIndex} (h : p.NoneEmpty) (cs : List Claim) :
    (cs.foldl PathIndex.insert p).NoneEmpty := by
  induction cs generalizing p with
  | nil => exact h
  | cons a cs ih => exact ih (h.insert a)

end PathIndex

end Registrar
