import Registrar.Proofs.Commute
import Registrar.Proofs.Soundness

/-!
# Lookups with a module more or less

Registering a module and taking one out are the two readings of one relation:
`Registry.Without r r' n` says that `r` holds what `r'` holds but for the module `n`. The claims of
`r` are then those of `r'` that `n` does not make, so a request that `r'` does not resolve to `n`
has the same answer in both (`Without.lookup`). The step from one index to the other is small
because `best` gives the one match that precedes all others (`best_eq_some_iff`), which does not
depend on what else was compared.
-/

namespace Registrar

open Text

namespace Registry

section
variable {r : Registry} (h : r.Coherent) {t : Transport} {method path : String} {m : Match}
  (hm : r.lookup t method path = some m)
include h hm

/-- What a lookup finds is a claim on the transport, with what it captures or with nothing. -/
theorem captured_of_lookup : m.claim ∈ r.claims t ∧
    (m.claim.captures? (Path.normalize path) = some m.params ∨ m.params = ∅) := by
  cases hk : (r.paths.on t).get? (t.key (some (toUpper (trim method))) (Path.normalize path)) with
  | some c =>
    rw [lookup_of_key hk] at hm
    cases hm
    refine ⟨(mem_claims_of_get? h hk).1, ?_⟩
    cases hc : c.captures? (Path.normalize path) with
    | some params => exact .inl rfl
    | none => exact .inr rfl
  | none =>
    have hfits := fits_of_no_key h hk hm
    exact ⟨hfits.held, .inl hfits.params⟩

theorem held_of_lookup : m.claim ∈ r.claims t := (captured_of_lookup h hm).1

end

/-! ## Without one module -/

namespace Without

variable {r r' : Registry} {name : String} (hw : r.Without r' name)
include hw

theorem holds_iff {n : String} {c : Claim} : r.Holds n c ↔ n ≠ name ∧ r'.Holds n c := by
  unfold Holds
  rw [hw.modules]
  by_cases hn : n = name <;> simp [hn]

section
variable (h : r.Coherent) (h' : r'.Coherent)
include h h'

theorem get?_path_iff {t : Transport} {k : String} {c : Claim} :
    (r.paths.on t).get? k = some c ↔ c.module ≠ name ∧ (r'.paths.on t).get? k = some c := by
  rw [h.paths, h'.paths, hw.holds_iff, and_left_comm]

theorem get?_path_eq_none {t : Transport} {k : String} (hk : (r'.paths.on t).get? k = none) :
    (r.paths.on t).get? k = none := by
  rw [Option.eq_none_iff_forall_ne_some]
  intro c hc
  rw [((hw.get?_path_iff h h').1 hc).2] at hk
  cases hk

theorem mem_claims_iff {t : Transport} {c : Claim} :
    c ∈ r.claims t ↔ c.module ≠ name ∧ c ∈ r'.claims t := by
  rw [Registry.mem_claims_iff h, Registry.mem_claims_iff h', hw.holds_iff, and_left_comm]

theorem fits_iff {t : Transport} {method path : String} {m : Match} :
    r.Fits t method path m ↔ m.claim.module ≠ name ∧ r'.Fits t method path m := by
  constructor
  · rintro ⟨hheld, hmeth, hparams⟩
    obtain ⟨hne, hheld⟩ := (hw.mem_claims_iff h h').1 hheld
    exact ⟨hne, hheld, hmeth, hparams⟩
  · rintro ⟨hne, hheld, hmeth, hparams⟩
    exact ⟨(hw.mem_claims_iff h h').2 ⟨hne, hheld⟩, hmeth, hparams⟩

/-- No request resolves to the module that is missing. -/
theorem module_ne_of_lookup {t : Transport} {method path : String} {m : Match}
    (hm : r.lookup t method path = some m) : m.claim.module ≠ name :=
  ((hw.mem_claims_iff h h').1 (held_of_lookup h hm)).1

/-- The best match in the larger registry is that of the smaller one, or one of the module. -/
theorem best_candidates (t : Transport) (method path : String) :
    best ((r'.claims t).filterMap (candidate? method path)) =
        best ((r.claims t).filterMap (candidate? method path)) ∨
      ∃ m, best ((r'.claims t).filterMap (candidate? method path)) = some m ∧
        m.claim.module = name := by
  have hmem : ∀ m, m ∈ (r.claims t).filterMap (candidate? method path) ↔
      m.claim.module ≠ name ∧ m ∈ (r'.claims t).filterMap (candidate? method path) := fun m => by
    rw [mem_candidates_iff h, mem_candidates_iff h', hw.fits_iff h h']
  have hsort := candidates_pairwise h t method path
  have hsort' := candidates_pairwise h' t method path
  cases hb : best ((r'.claims t).filterMap (candidate? method path)) with
  | none =>
    -- nothing matches in `r'`, so nothing does in `r`
    refine .inl (Eq.symm (best_eq_none_iff.2 (List.eq_nil_iff_forall_not_mem.2 fun m hm => ?_)))
    have hm' := ((hmem m).1 hm).2
    rw [best_eq_none_iff.1 hb] at hm'
    exact List.not_mem_nil hm'
  | some m =>
    by_cases hn : m.claim.module = name
    · exact .inr ⟨m, rfl, hn⟩
    · obtain ⟨hin, hpre⟩ := (best_eq_some_iff hsort').1 hb
      refine .inl (Eq.symm ((best_eq_some_iff hsort).2 ⟨(hmem m).2 ⟨hn, hin⟩, fun x hx => ?_⟩))
      exact hpre x ((hmem x).1 hx).2

/-- A request that does not resolve to the module has the same answer without it. -/
theorem lookup (t : Transport) (method path : String) :
    r'.lookup t method path = r.lookup t method path ∨
      ∃ m, r'.lookup t method path = some m ∧ m.claim.module = name := by
  cases hk : (r'.paths.on t).get? (t.key (some (toUpper (trim method))) (Path.normalize path)) with
  | some c =>
    rw [lookup_of_key hk]
    by_cases hc : c.module = name
    · exact .inr ⟨_, rfl, hc⟩
    · rw [lookup_of_key ((hw.get?_path_iff h h').2 ⟨hc, hk⟩)]
      exact .inl rfl
  | none =>
    rw [lookup_of_no_key hk, lookup_of_no_key (hw.get?_path_eq_none h h' hk)]
    exact hw.best_candidates h h' t _ _

end

end Without

end Registry

/-! ## Registering and taking out -/

/-- A module that is registered takes over requests or leaves their answers as they are. One that is
taken out leaves those that it did not serve, and serves none any more. -/
theorem lookup_isolated {config : Config} {r : Registry} (hr : Reachable config r) (t : Transport)
    (method path : String) :
    (∀ m r' e, r.register m = .ok (r', e) →
      r'.lookup t method path = r.lookup t method path ∨
        ∃ x, r'.lookup t method path = some x ∧ x.claim.module = m.name) ∧
    ∀ name r' e, r.unregister name = .ok (r', e) →
      (∀ x, r.lookup t method path = some x → x.claim.module ≠ name →
        r'.lookup t method path = some x) ∧
      ∀ x, r'.lookup t method path = some x → x.claim.module ≠ name := by
  have h := hr.coherent
  constructor
  · intro m r' e hreg
    obtain ⟨hm, -, rfl⟩ := Registry.register_eq_ok_iff.1 hreg
    exact (Registry.Without.enroll hm).lookup h (.enroll hm h) t method path
  · intro name r' e hun
    obtain ⟨he, rfl⟩ := Registry.unregister_eq_ok_iff.1 hun
    have h' : (r.release name e).Coherent := .release he h
    have hw : (r.release name e).Without r name :=
      ⟨rfl, fun n => Registry.Coherent.get?_release r name e n⟩
    refine ⟨fun x hx hne => ?_, fun x hx => hw.module_ne_of_lookup h' h hx⟩
    rcases hw.lookup h' h t method path with heq | ⟨y, hy, hyn⟩
    · rw [← heq, hx]
    · rw [hx] at hy
      cases hy
      exact absurd hyn hne

/-- A module with an endpoint that is more specific than one of `markModule`. -/
def badgeModule : Module where
  name := "badge"
  schema := .ofList [("title", { type := "string" })]
  channels :=
    { http := { enabled := true, endpoints := [⟨"POST", "/marks/:id/share", "create"⟩] } }

/-- The registry of `markModule` with `badgeModule` in it. -/
def badgeRegistry : Registry := markRegistry.enroll (markRegistry.propose badgeModule).1

/-- A request passes from the one module to the other, and stays there when the first one goes. -/
theorem share_passes_to_badge :
    Reachable {} markRegistry ∧
    markRegistry.register badgeModule =
      .ok (badgeRegistry, (markRegistry.propose badgeModule).1) ∧
    (markRegistry.lookup .http "POST" "/marks/9/share").map (·.claim.module) = some "mark" ∧
    ∃ x, badgeRegistry.lookup .http "POST" "/marks/9/share" = some x ∧ x.claim.module = "badge" ∧
      ∃ r e, badgeRegistry.unregister "mark" = .ok (r, e) ∧
        r.lookup .http "POST" "/marks/9/share" = some x := by
  have hr : Reachable {} markRegistry := .run (.start rfl) _
  have hmeets : ∀ d, markRegistry.Meets badgeModule d :=
    Registry.register_accepted_iff.1 (by decide +kernel)
  have hreg : markRegistry.register badgeModule =
      .ok (badgeRegistry, (markRegistry.propose badgeModule).1) := Registry.register_of_met hmeets
  have hbefore : (markRegistry.lookup .http "POST" "/marks/9/share").map (·.claim.module) =
      some "mark" := by decide +kernel
  have hafter : (badgeRegistry.lookup .http "POST" "/marks/9/share").map (·.claim.module) ≠
      some "mark" := by decide +kernel
  refine ⟨hr, hreg, hbefore, ?_⟩
  rcases (lookup_isolated hr .http "POST" "/marks/9/share").1 _ _ _ hreg with heq | ⟨x, hx, hxm⟩
  · rw [heq] at hafter
    exact absurd hbefore hafter
  · have hr' : Reachable {} badgeRegistry := by
      have hstep := hr.step (.register badgeModule)
      rwa [Registry.perform_register hmeets] at hstep
    obtain ⟨e, he⟩ : ∃ e, badgeRegistry.modules.get? "mark" = some e :=
      Option.isSome_iff_exists.1 (by decide +kernel)
    have hun := Registry.unregister_eq_ok_iff.2 ⟨he, rfl⟩
    have hkeeps := (lookup_isolated hr' .http "POST" "/marks/9/share").2 _ _ _ hun
    exact ⟨x, hx, hxm, _, e, hun, hkeeps.1 x hx (by rw [hxm]; decide)⟩

end Registrar
