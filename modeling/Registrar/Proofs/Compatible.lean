import Registrar.Proofs.Coherence

/-!
# Modules side by side

A coherent registry is determined by its configuration and its modules (`Coherent.ext`), so what it
demands of one module more can be said of these alone: the module has to be `Module.Sound` by
itself, there has to be room, and it has to be `Module.Compatible` with every module that is
registered (`Coherent.meets_iff`). To be compatible is symmetric, and a registry that holds less
(`Registry.Within`) demands no more (`Coherent.meets_of_within`).
-/

namespace Registrar

/-! ## Equal registries -/

namespace Registry

/-- A coherent registry is determined by its configuration and its modules. -/
theorem Coherent.ext {r r' : Registry} (h : r.Coherent) (h' : r'.Coherent)
    (hconf : r.config = r'.config) (hmod : ∀ n, r.modules.get? n = r'.modules.get? n) :
    r = r' := by
  have hholds : ∀ n c, r.Holds n c ↔ r'.Holds n c := fun n c => by
    unfold Holds
    rw [hmod]
  have htables : r.tables = r'.tables := by
    refine Dict.ext_get? fun t => Option.ext fun n => ?_
    rw [h.tables, h'.tables, hmod]
  have hpaths : r.paths = r'.paths := by
    refine h.noneEmpty.ext h'.noneEmpty fun t => Dict.ext_get? fun k => Option.ext fun c => ?_
    rw [h.paths, h'.paths, hholds]
  have hmodules : r.modules = r'.modules := Dict.ext_get? hmod
  obtain ⟨_, _, _, _⟩ := r
  obtain ⟨_, _, _, _⟩ := r'
  subst hconf htables hpaths hmodules
  rfl

end Registry

/-! ## Two modules -/

/-- The module could be registered if there were no other. -/
structure Module.Sound (m : Module) (config : Config) : Prop where
  ordinary : m.isCapability = false
  valid : m.report? = none
  few : ((m.claims config.endpoints m.plural).map (·.key)).toFinset.card ≤ config.maxClaims
  agreement : ∀ c ∈ m.claims config.endpoints m.plural,
    ∀ d ∈ m.claims config.endpoints m.plural, c.key = d.key → c.action = d.action

/-- The modules share no address. -/
def Module.Disjoint (a b : Module) (mode : EndpointMode) : Prop :=
  ∀ c ∈ a.claims mode a.plural, ∀ d ∈ b.claims mode b.plural, c.key ≠ d.key

/-- The modules share nothing that a module owns alone. -/
structure Module.Compatible (a b : Module) (mode : EndpointMode) : Prop where
  name : a.name ≠ b.name
  table : a.table ≠ b.table
  paths : a.Disjoint b mode

namespace Module

variable {a b : Module} {mode : EndpointMode}

theorem Disjoint.symm (h : a.Disjoint b mode) : b.Disjoint a mode :=
  fun c hc d hd => (h d hd c hc).symm

theorem Compatible.symm (h : a.Compatible b mode) : b.Compatible a mode :=
  ⟨h.name.symm, h.table.symm, h.paths.symm⟩

end Module

/-! ## Demands in terms of the modules -/

namespace Registry.Coherent

variable {r : Registry} (h : r.Coherent) {m : Module}
include h

theorem meets_newName_iff :
    r.Meets m .newName ↔ ∀ n e, r.modules.get? n = some e → e.module.name ≠ m.name := by
  constructor
  · intro hfree n e he hname
    have hfree : r.modules.get? m.name = none := hfree
    rw [← hname, (h.proper n e he).name, he] at hfree
    cases hfree
  · intro hne
    show r.modules.get? m.name = none
    rw [Option.eq_none_iff_forall_ne_some]
    exact fun e he => hne _ e he (h.proper _ e he).name

theorem meets_freeTable_iff :
    r.Meets m .freeTable ↔ ∀ n e, r.modules.get? n = some e → e.module.table ≠ m.table := by
  constructor
  · intro hfree n e he htable
    have hfree : r.tables.get? m.table = none := hfree
    rw [(h.tables m.table n).2 ⟨e, he, (h.proper n e he).table.trans htable⟩] at hfree
    cases hfree
  · intro hne
    show r.tables.get? m.table = none
    rw [Option.eq_none_iff_forall_ne_some]
    intro n hn
    obtain ⟨e, he, htable⟩ := (h.tables m.table n).1 hn
    exact hne n e he ((h.proper n e he).table.symm.trans htable)

/-- Under a key that a registered module claims stands a claim. -/
theorem exists_get?_key {n : String} {e : Registration} (he : r.modules.get? n = some e)
    {c : Claim} (hc : c ∈ e.module.claims r.config.endpoints e.module.plural) :
    ∃ d, (r.paths.on c.transport).get? c.key = some d := by
  have hp := h.proper n e he
  rw [← hp.plural] at hc
  obtain ⟨d, hd, hk⟩ := exists_distinct_key hc
  rw [← hp.claims] at hd
  have hget := h.get?_of_holds ⟨e, he, hd⟩
  rw [Claim.transport_eq_of_key_eq hk, hk] at hget
  exact ⟨d, hget⟩

theorem meets_freePaths_iff :
    r.Meets m .freePaths ↔
      ∀ n e, r.modules.get? n = some e → e.module.Disjoint m r.config.endpoints := by
  constructor
  · intro hfree n e he c hc d hd hk
    obtain ⟨c', hget⟩ := h.exists_get?_key he hc
    have hnone : (r.paths.on d.transport).get? d.key = none := hfree d hd
    rw [Claim.transport_eq_of_key_eq hk, hk, hnone] at hget
    cases hget
  · intro hdisj d hd
    rw [Option.eq_none_iff_forall_ne_some]
    intro c hc
    obtain ⟨⟨-, hk⟩, e, he, hce⟩ := (h.paths _ _ _).1 hc
    have hp := h.proper _ e he
    exact hdisj _ e he c (hp.plural ▸ hp.derived hce) d hd hk

/-- What is demanded of a module, in terms of the modules that are registered. -/
theorem meets_iff :
    (∀ d, r.Meets m d) ↔ m.Sound r.config ∧ r.size < r.config.maxModules ∧
      ∀ n e, r.modules.get? n = some e → e.module.Compatible m r.config.endpoints := by
  constructor
  · intro hm
    refine ⟨⟨hm .ordinary, hm .valid, hm .fewClaims, hm .agreement⟩, hm .room, fun n e he => ?_⟩
    exact ⟨h.meets_newName_iff.1 (hm .newName) n e he,
      h.meets_freeTable_iff.1 (hm .freeTable) n e he,
      h.meets_freePaths_iff.1 (hm .freePaths) n e he⟩
  · rintro ⟨hsound, hroom, hcomp⟩ d
    cases d with
    | ordinary => exact hsound.ordinary
    | newName => exact h.meets_newName_iff.2 fun n e he => (hcomp n e he).name
    | valid => exact hsound.valid
    | room => exact hroom
    | fewClaims => exact hsound.few
    | freeTable => exact h.meets_freeTable_iff.2 fun n e he => (hcomp n e he).table
    | agreement => exact hsound.agreement
    | freePaths => exact h.meets_freePaths_iff.2 fun n e he => (hcomp n e he).paths

end Registry.Coherent

/-! ## Registries that hold less -/

/-- The first registry holds nothing that the second does not hold. -/
structure Registry.Within (r r' : Registry) : Prop where
  config : r.config = r'.config
  modules : ∀ n e, r.modules.get? n = some e → r'.modules.get? n = some e

theorem Dict.size_le_of_get? {α : Type} {d e : Dict α}
    (h : ∀ k x, d.get? k = some x → e.get? k = some x) : d.size ≤ e.size := by
  have hnodup : d.entries.Nodup := d.sorted.imp fun {a b} hlt (heq : a = b) =>
    String.lt_irrefl b.1 (heq ▸ hlt)
  refine (hnodup.subperm fun x hx => ?_).length_le
  exact Dict.get?_eq_some_iff.1 (h x.1 x.2 (Dict.get?_eq_some_iff.2 hx))

namespace Registry

theorem Within.size_le {r r' : Registry} (h : r.Within r') : r.size ≤ r'.size :=
  Dict.size_le_of_get? h.modules

/-- What a registry admits, one that holds less admits. -/
theorem Coherent.meets_of_within {r r' : Registry} (h : r.Coherent) (h' : r'.Coherent)
    (hw : r.Within r') {m : Module} (hm : ∀ d, r'.Meets m d) : ∀ d, r.Meets m d := by
  obtain ⟨hsound, hroom, hcomp⟩ := h'.meets_iff.1 hm
  rw [h.meets_iff, hw.config]
  exact ⟨hsound, hw.size_le.trans_lt hroom, fun n e he => hcomp n e (hw.modules n e he)⟩

end Registry

end Registrar
