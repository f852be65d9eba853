import Registrar.Proofs.Admission
import Registrar.Proofs.Derived
import Registrar.Proofs.PathIndex
import Mathlib.Algebra.Ring.Nat

/-!
# The indices of a registry agree

`Registry.Coherent r`: each registration is what the registry makes of the module it holds
(`Registration.Proper`), the owners of tables and the claims are those that the registrations say,
and the limits are kept. An empty registry is coherent, admitting a module (`Coherent.enroll`) and
taking one out (`Coherent.release`) keep it so, and hence it holds of every reachable registry
(`Reachable.coherent`). What follows from it for all three indices is `Registry.Consistent`.
-/

namespace Registrar

/-! ## The invariant -/

/-- The registration is what a registry with this configuration makes of a module of this name. -/
structure Registration.Proper (e : Registration) (config : Config) (name : String) : Prop where
  name : e.module.name = name
  ordinary : e.module.isCapability = false
  valid : e.module.report? = none
  plural : e.plural = e.module.plural
  table : e.table = e.module.table
  claims : e.claims = (distinctClaims (e.module.claims config.endpoints e.plural)).1

/-- The module registered under the name makes the claim. -/
def Registry.Holds (r : Registry) (name : String) (c : Claim) : Prop :=
  ∃ e, r.modules.get? name = some e ∧ c ∈ e.claims

/-- The indices of the registry agree with each other and keep its limits. -/
structure Registry.Coherent (r : Registry) : Prop where
  proper : ∀ n e, r.modules.get? n = some e → e.Proper r.config n
  tables : ∀ t n, r.tables.get? t = some n ↔ ∃ e, r.modules.get? n = some e ∧ e.table = t
  paths : ∀ t k c, (r.paths.on t).get? k = some c ↔ c.IsAt t k ∧ r.Holds c.module c
  noneEmpty : r.paths.NoneEmpty
  room : r.size ≤ r.config.maxModules
  few : ∀ n e, r.modules.get? n = some e → e.claims.length ≤ r.config.maxClaims
  count : r.claimCount = (r.all.map fun e => e.claims.length).sum

namespace Registration.Proper

variable {e : Registration} {config : Config} {name : String}

theorem pairwise (h : e.Proper config name) : e.claims.Pairwise fun c d => c.key ≠ d.key := by
  rw [h.claims]
  exact distinctClaims_pairwise _

theorem derived (h : e.Proper config name) {c : Claim} (hc : c ∈ e.claims) :
    c ∈ e.module.claims config.endpoints e.plural := by
  rw [h.claims] at hc
  exact (distinctClaims_sublist _).subset hc

theorem module_eq (h : e.Proper config name) {c : Claim} (hc : c ∈ e.claims) : c.module = name :=
  (Module.claim_module (h.derived hc)).trans h.name

end Registration.Proper

namespace Registry

theorem propose_proper (r : Registry) {m : Module} (hm : ∀ d, r.Meets m d) :
    (r.propose m).1.Proper r.config m.name :=
  ⟨rfl, hm .ordinary, hm .valid, rfl, rfl, rfl⟩

/-! ## Sums over a dictionary -/

theorem sum_values_insert {α : Type} {d : Dict α} {k : String} (h : d.get? k = none) (x : α)
    (f : α → Nat) : ((d.insert k x).values.map f).sum = f x + (d.values.map f).sum := by
  have hp := ((Dict.entries_insert_perm h x).map (·.2)).map f
  simpa [Dict.values] using hp.sum_nat

theorem sum_values_erase {α : Type} {d : Dict α} {k : String} {x : α} (h : d.get? k = some x)
    (f : α → Nat) : (d.values.map f).sum = f x + ((d.erase k).values.map f).sum := by
  have hp := ((Dict.entries_perm_erase h).map (·.2)).map f
  simpa [Dict.values] using hp.sum_nat

namespace Coherent

variable {r : Registry}

theorem holds_module (h : r.Coherent) {n : String} {c : Claim} (hc : r.Holds n c) :
    c.module = n := by
  obtain ⟨e, he, hc⟩ := hc
  exact (h.proper n e he).module_eq hc

/-- A module that is registered has its claims in the path index. -/
theorem get?_of_holds (h : r.Coherent) {n : String} {c : Claim} (hc : r.Holds n c) :
    (r.paths.on c.transport).get? c.key = some c :=
  (h.paths _ _ _).2 ⟨⟨rfl, rfl⟩, by rwa [h.holds_module hc]⟩

/-- Under one address there is one claim. -/
theorem eq_of_isAt (h : r.Coherent) {n n' : String} {c c' : Claim} {t : Transport} {k : String}
    (hc : r.Holds n c) (hc' : r.Holds n' c') (ha : c.IsAt t k) (ha' : c'.IsAt t k) : c = c' := by
  have h1 := h.get?_of_holds hc
  have h2 := h.get?_of_holds hc'
  rw [ha.1, ha.2] at h1
  rw [ha'.1, ha'.2, h1] at h2
  exact Option.some.inj h2

/-! ## An empty registry -/

theorem empty (config : Config) : Coherent { config } where
  proper n e he := by cases he
  tables t n := by
    constructor
    · intro ht
      cases ht
    · rintro ⟨e, he, -⟩
      cases he
  paths t k c := by
    constructor
    · intro hc
      cases t <;> cases hc
    · rintro ⟨-, e, he, -⟩
      cases he
  noneEmpty t d hd := by cases t <;> cases hd
  room := Nat.zero_le _
  few n e he := by cases he
  count := rfl

/-! ## Admitting a module -/

theorem get?_enroll (r : Registry) (m : Module) (n : String) :
    (r.enroll (r.propose m).1).modules.get? n =
      if n = m.name then some (r.propose m).1 else r.modules.get? n :=
  Dict.get?_insert _ _ _ _

theorem owner_enroll (r : Registry) (m : Module) (t : String) :
    (r.enroll (r.propose m).1).tables.get? t =
      if t = m.table then some m.name else r.tables.get? t :=
  Dict.get?_insert _ _ _ _

section
variable {m : Module} (hm : ∀ d, r.Meets m d)
include hm

theorem proposed_paths_free : ∀ c ∈ (r.propose m).1.claims,
    (r.paths.on c.transport).get? c.key = none :=
  fun c hc => hm .freePaths c ((r.propose_proper hm).derived hc)

theorem holds_enroll (c : Claim) :
    (r.enroll (r.propose m).1).Holds c.module c ↔
      c ∈ (r.propose m).1.claims ∨ r.Holds c.module c := by
  have hnew : r.modules.get? m.name = none := hm .newName
  unfold Holds
  rw [get?_enroll]
  constructor
  · rintro ⟨e, he, hc⟩
    split at he
    · cases he
      exact .inl hc
    · exact .inr ⟨e, he, hc⟩
  · rintro (hc | ⟨e, he, hc⟩)
    · exact ⟨_, if_pos ((r.propose_proper hm).module_eq hc), hc⟩
    · rw [if_neg fun hn => by rw [hn, hnew] at he; cases he]
      exact ⟨e, he, hc⟩

theorem tables_enroll (h : r.Coherent) (t n : String) :
    (r.enroll (r.propose m).1).tables.get? t = some n ↔
      ∃ e, (r.enroll (r.propose m).1).modules.get? n = some e ∧ e.table = t := by
  have hnew : r.modules.get? m.name = none := hm .newName
  have hfree : r.tables.get? m.table = none := hm .freeTable
  rw [owner_enroll, get?_enroll]
  by_cases hn : n = m.name
  · subst hn
    rw [if_pos rfl]
    by_cases ht : t = m.table
    · rw [if_pos ht]
      exact ⟨fun _ => ⟨_, rfl, ht.symm⟩, fun _ => rfl⟩
    · rw [if_neg ht, h.tables]
      constructor
      · rintro ⟨e, he, -⟩
        rw [hnew] at he
        cases he
      · rintro ⟨e, he, rfl⟩
        cases he
        exact absurd rfl ht
  · rw [if_neg hn]
    by_cases ht : t = m.table
    · subst ht
      rw [if_pos rfl, ← h.tables, hfree]
      exact ⟨fun he => absurd (Option.some.inj he).symm hn, nofun⟩
    · rw [if_neg ht]
      exact h.tables t n

theorem paths_enroll (h : r.Coherent) (t : Transport) (k : String) (c : Claim) :
    ((r.enroll (r.propose m).1).paths.on t).get? k = some c ↔
      c.IsAt t k ∧ (r.enroll (r.propose m).1).Holds c.module c := by
  rw [holds_enroll hm]
  refine (PathIndex.get?_foldl_insert (r.propose_proper hm).pairwise r.paths).trans ?_
  rw [h.paths]
  constructor
  · rintro (⟨hc, ha⟩ | ⟨-, ha, hc⟩)
    · exact ⟨ha, .inl hc⟩
    · exact ⟨ha, .inr hc⟩
  · rintro ⟨ha, hc | hc⟩
    · exact .inl ⟨hc, ha⟩
    · refine .inr ⟨fun d hd hda => ?_, ha, hc⟩
      -- the address of `d` is free, that of `c` is not
      have hd := proposed_paths_free hm d hd
      rw [hda.1, hda.2, (h.paths t k c).2 ⟨ha, hc⟩] at hd
      cases hd

theorem count_enroll (h : r.Coherent) : (r.enroll (r.propose m).1).claimCount =
    ((r.enroll (r.propose m).1).all.map fun e => e.claims.length).sum := by
  have hsize := PathIndex.size_foldl_insert (r.propose_proper hm).pairwise
    (proposed_paths_free hm)
  have hsum := sum_values_insert (hm .newName : r.modules.get? m.name = none) (r.propose m).1
    fun e => e.claims.length
  have hcount : r.paths.size = (r.modules.values.map fun e => e.claims.length).sum := h.count
  refine hsize.trans (Eq.trans ?_ hsum.symm)
  rw [hcount, Nat.add_comm]

theorem enroll (h : r.Coherent) : (r.enroll (r.propose m).1).Coherent where
  proper n e he := by
    rw [get?_enroll] at he
    split at he
    · rename_i hn
      cases he
      exact hn ▸ r.propose_proper hm
    · exact h.proper n e he
  tables := tables_enroll hm h
  paths := paths_enroll hm h
  noneEmpty := h.noneEmpty.foldl_insert _
  room := by
    have hroom : r.size < r.config.maxModules := hm .room
    exact (Dict.size_insert (hm .newName) _).trans_le hroom
  few n e he := by
    rw [get?_enroll] at he
    split at he
    · cases he
      rw [r.length_propose]
      exact hm .fewClaims
    · exact h.few n e he
  count := count_enroll hm h

end

/-! ## Taking a module out -/

theorem get?_release (r : Registry) (name : String) (e : Registration) (n : String) :
    (r.release name e).modules.get? n = if n = name then none else r.modules.get? n :=
  Dict.get?_erase _ _ _

theorem owner_release (r : Registry) (name : String) (e : Registration) (t : String) :
    (r.release name e).tables.get? t = if t = e.table then none else r.tables.get? t :=
  Dict.get?_erase _ _ _

theorem path_release (r : Registry) (name : String) (e : Registration) (t : Transport)
    (k : String) :
    ((r.release name e).paths.on t).get? k =
      if ∃ c ∈ e.claims, c.IsAt t k then none else (r.paths.on t).get? k := by
  unfold Registry.release
  rw [PathIndex.on_prune, PathIndex.get?_foldl_erase]

theorem holds_release (r : Registry) (name : String) (e : Registration) (n : String) (c : Claim) :
    (r.release name e).Holds n c ↔ n ≠ name ∧ r.Holds n c := by
  unfold Holds
  rw [get?_release]
  by_cases hn : n = name <;> simp [hn]

section
variable {name : String} {e : Registration} (he : r.modules.get? name = some e)
include he

theorem tables_release (h : r.Coherent) (t n : String) :
    (r.release name e).tables.get? t = some n ↔
      ∃ e', (r.release name e).modules.get? n = some e' ∧ e'.table = t := by
  have hown : r.tables.get? e.table = some name := (h.tables _ _).2 ⟨e, he, rfl⟩
  rw [owner_release, get?_release]
  by_cases hn : n = name
  · subst hn
    rw [if_pos rfl]
    refine ⟨fun ht => ?_, fun ⟨e', he', _⟩ => nomatch he'⟩
    split at ht
    · cases ht
    · rename_i hne
      obtain ⟨e', he', rfl⟩ := (h.tables t n).1 ht
      rw [he] at he'
      cases he'
      exact absurd rfl hne
  · rw [if_neg hn]
    by_cases ht : t = e.table
    · subst ht
      rw [if_pos rfl, ← h.tables, hown]
      exact ⟨nofun, fun hs => absurd (Option.some.inj hs).symm hn⟩
    · rw [if_neg ht]
      exact h.tables t n

theorem paths_release (h : r.Coherent) (t : Transport) (k : String) (c : Claim) :
    ((r.release name e).paths.on t).get? k = some c ↔
      c.IsAt t k ∧ (r.release name e).Holds c.module c := by
  rw [path_release, holds_release]
  constructor
  · intro hc
    split at hc
    · cases hc
    · rename_i hno
      obtain ⟨ha, hh⟩ := (h.paths t k c).1 hc
      refine ⟨ha, fun hn => hno ⟨c, ?_, ha⟩, hh⟩
      obtain ⟨e', he', hc'⟩ := hh
      rw [hn, he] at he'
      cases he'
      exact hc'
  · rintro ⟨ha, hn, hh⟩
    rw [if_neg, h.paths]
    · exact ⟨ha, hh⟩
    · -- a claim of the module at this address would be `c`, which another module makes
      rintro ⟨d, hd, hda⟩
      have hdc := h.eq_of_isAt ⟨e, he, hd⟩ hh hda ha
      exact hn (hdc ▸ (h.proper name e he).module_eq hd)

theorem count_release (h : r.Coherent) : (r.release name e).claimCount =
    ((r.release name e).all.map fun e => e.claims.length).sum := by
  have hsize := PathIndex.size_foldl_erase (h.proper name e he).pairwise fun c hc =>
    h.get?_of_holds ⟨e, he, hc⟩
  have hsum := sum_values_erase he fun e => e.claims.length
  have hcount : r.paths.size = (r.modules.values.map fun e => e.claims.length).sum := h.count
  have hprune := PathIndex.size_prune (e.claims.foldl PathIndex.erase r.paths)
  show (e.claims.foldl PathIndex.erase r.paths).prune.size =
    ((r.modules.erase name).values.map fun e => e.claims.length).sum
  omega

theorem release (h : r.Coherent) : (r.release name e).Coherent where
  proper n e' he' := by
    rw [get?_release] at he'
    split at he'
    · cases he'
    · exact h.proper n e' he'
  tables := tables_release he h
  paths := paths_release he h
  noneEmpty := PathIndex.noneEmpty_prune _
  room := by
    have hsize : r.modules.size = (r.release name e).modules.size + 1 := Dict.size_erase he
    have hroom : r.modules.size ≤ r.config.maxModules := h.room
    show (r.release name e).modules.size ≤ r.config.maxModules
    omega
  few n e' he' := by
    rw [get?_release] at he'
    split at he'
    · cases he'
    · exact h.few n e' he'
  count := count_release he h

end

end Coherent

/-! ## Runs -/

theorem unregister_eq_ok_iff {r r' : Registry} {name : String} {e : Registration} :
    r.unregister name = .ok (r', e) ↔
      r.modules.get? name = some e ∧ r' = r.release name e := by
  unfold unregister
  cases h : r.modules.get? name with
  | none => exact ⟨nofun, fun ⟨hn, _⟩ => nomatch hn⟩
  | some e' =>
    constructor
    · intro hr
      cases hr
      exact ⟨rfl, rfl⟩
    · rintro ⟨he, rfl⟩
      cases he
      rfl

theorem Coherent.perform {r : Registry} (h : r.Coherent) (o : Operation) :
    (r.perform o).1.Coherent := by
  rcases perform_cases r o with hr | ⟨m, r', e, -, hr, hp⟩ | ⟨name, r', e, -, hr, hp⟩
  · rw [hr]
    exact h
  · obtain ⟨hm, -, rfl⟩ := register_eq_ok_iff.1 hr
    rw [hp]
    exact .enroll hm h
  · obtain ⟨he, rfl⟩ := unregister_eq_ok_iff.1 hr
    rw [hp]
    exact .release he h

theorem config_perform (r : Registry) (o : Operation) : (r.perform o).1.config = r.config := by
  rcases perform_cases r o with hr | ⟨m, r', e, -, hr, hp⟩ | ⟨name, r', e, -, hr, hp⟩
  · rw [hr]
  · obtain ⟨-, -, rfl⟩ := register_eq_ok_iff.1 hr
    rw [hp]
    rfl
  · obtain ⟨-, rfl⟩ := unregister_eq_ok_iff.1 hr
    rw [hp]
    rfl

end Registry

theorem Reachable.coherent {config : Config} {r : Registry} (h : Reachable config r) :
    r.Coherent := by
  induction h with
  | start h =>
    rw [Registry.withConfig_eq_ok h]
    exact .empty config
  | step _ o ih => exact ih.perform o

theorem Reachable.config_eq {config : Config} {r : Registry} (h : Reachable config r) :
    r.config = config := by
  induction h with
  | start h => rw [Registry.withConfig_eq_ok h]
  | @step r _ o ih => rw [r.config_perform o, ih]

/-! ## The three indices -/

/-- What the indices of a registry with this configuration say of each other. -/
structure Registry.Consistent (r : Registry) (config : Config) : Prop where
  /-- A registration holds a valid module under its name with all that is derived from it. -/
  entry : ∀ n e, r.modules.get? n = some e →
    e.Proper config n ∧ e.claims.Pairwise fun c d => c.key ≠ d.key
  /-- A table is owned by the module that has it. -/
  owner : ∀ t n, r.tables.get? t = some n ↔ ∃ e, r.modules.get? n = some e ∧ e.table = t
  /-- No two modules have one table. -/
  ownTable : ∀ n n' e e', r.modules.get? n = some e → r.modules.get? n' = some e' →
    e.table = e'.table → n = n'
  /-- Under an address stands the claim that just one module makes on it. -/
  path : ∀ t k c, (r.paths.on t).get? k = some c ↔
    c.IsAt t k ∧ r.Holds c.module c ∧ ∃! n, r.Holds n c
  noneEmpty : r.paths.NoneEmpty
  room : r.size ≤ config.maxModules
  few : ∀ n e, r.modules.get? n = some e → e.claims.length ≤ config.maxClaims
  count : r.claimCount = (r.all.map fun e => e.claims.length).sum

theorem consistent_of_reachable {config : Config} {r : Registry} (h : Reachable config r) :
    r.Consistent config := by
  have hc := h.coherent
  have hconf := h.config_eq
  refine
    { entry := fun n e he => ?_
      owner := hc.tables
      ownTable := fun n n' e e' he he' ht => ?_
      path := fun t k c => ?_
      noneEmpty := hc.noneEmpty
      room := hconf ▸ hc.room
      few := hconf ▸ hc.few
      count := hc.count }
  · have hp := hc.proper n e he
    exact ⟨hconf ▸ hp, hp.pairwise⟩
  · have h1 := (hc.tables e.table n).2 ⟨e, he, rfl⟩
    have h2 := (hc.tables e.table n').2 ⟨e', he', ht.symm⟩
    rw [h1] at h2
    exact Option.some.inj h2
  · rw [hc.paths]
    refine and_congr_right fun _ => ⟨fun hh => ⟨hh, c.module, hh, fun n hn => ?_⟩, fun hh => hh.1⟩
    exact (hc.holds_module hn).symm

/-- A module is admitted once, and a name without a module is not taken out. -/
theorem consistent_after_refusals :
    Reachable {} (({} : Registry).run
      [.register noteModule, .register noteModule, .unregister "page"]).1 ∧
    (({} : Registry).run
      [.register noteModule, .register noteModule, .unregister "page"]).1.claimCount = 11 ∧
    (({} : Registry).run
      [.register noteModule, .register noteModule, .unregister "page"]).1.Consistent {} :=
  ⟨.run (.start rfl) _, by decide +kernel, consistent_of_reachable (.run (.start rfl) _)⟩

end Registrar
