import Registrar.Proofs.Overlap
import Registrar.Proofs.Soundness

/-!
# The shortcut of a lookup

A lookup looks under the key of a request before it compares the request with every claim;
`Registry.scan` compares at once. Both give the same answer to a request whose path holds no
parameter and whose method holds no colon (`lookup_eq_scan`). The claim under the key has the method
and the path of such a request (`Registry.address_or_straddles`), so all its segments are literals.
Any other claim that matches has a parameter, as claims are told apart by address
(`Registry.Coherent.eq_of_address`), and comes after it (`Registry.Coherent.precedes_of_literal`).
-/

namespace Registrar

open Text

/-! ## Literal segments -/

namespace Claim

/-- Segments without a parameter match themselves alone and capture nothing. -/
theorem capture_literal {ss : List String} (h : ∀ s ∈ ss, Path.paramName s = none)
    (rs : List String) (found : Dict String) :
    capture ss rs found = if ss = rs then some found else none := by
  induction ss generalizing rs with
  | nil => cases rs <;> simp [capture]
  | cons s ss ih =>
    obtain ⟨hs, hss⟩ := List.forall_mem_cons.1 h
    cases rs with
    | nil => simp [capture]
    | cons r rs =>
      simp only [capture, hs, ih hss, List.cons.injEq]
      by_cases hsr : s = r <;> simp [hsr]

theorem literals_le (c : Claim) : c.literals ≤ c.segments.length := List.length_filter_le _ _

theorem literals_eq_length_iff {c : Claim} :
    c.literals = c.segments.length ↔ ∀ s ∈ c.segments, Path.paramName s = none := by
  simp [literals, List.length_filter_eq_length_iff]

end Claim

namespace Registry

/-- What the scan of all claims finds, without a look under the key of the request. -/
def scan (r : Registry) (t : Transport) (method path : String) : Option Match :=
  best ((r.claims t).filterMap (candidate? (toUpper (trim method)) (Path.normalize path)))

namespace Coherent

variable {r : Registry} (h : r.Coherent) {t : Transport}
include h

/-- On one address there is one claim. -/
theorem eq_of_address {c d : Claim} (hc : c ∈ r.claims t) (hd : d ∈ r.claims t)
    (hpath : c.path = d.path) (hmethod : t = .http → c.method = d.method) : c = d := by
  obtain ⟨hct, hch⟩ := (mem_claims_iff h).1 hc
  obtain ⟨hdt, hdh⟩ := (mem_claims_iff h).1 hd
  have hkey : d.key = c.key := by
    rw [Claim.key, Claim.key, hct, hdt, hpath]
    cases t with
    | http => rw [hmethod rfl]
    | _ => rfl
  exact h.eq_of_isAt hch hdh ⟨rfl, rfl⟩ ⟨hdt.trans hct.symm, hkey⟩

/-- A claim on a path of literals goes before every other claim that matches the path. -/
theorem precedes_of_literal (ht : t ≠ .cli) {method : String} {c : Claim} (hc : c ∈ r.claims t)
    (hmethod : t = .http → c.method = some method)
    (hlit : ∀ s ∈ c.segments, Path.paramName s = none) {x : Match}
    (hx : r.Fits t method c.path x) : x = ⟨c, ∅⟩ ∨ c.Precedes x.claim := by
  have hct := ((mem_claims_iff h).1 hc).1
  have hxt := ((mem_claims_iff h).1 hx.held).1
  have hparams : Claim.capture x.claim.segments c.segments ∅ = some x.params := by
    have hcaptures := hx.params
    rwa [Claim.captures?, hxt, ← hct] at hcaptures
  have hlen : x.claim.segments.length = c.segments.length :=
    (Claim.exists_capture_iff.1 ⟨_, hparams⟩).length_eq
  have hall : c.literals = c.segments.length := Claim.literals_eq_length_iff.2 hlit
  have hle := x.claim.literals_le
  rcases Nat.lt_or_eq_of_le (hlen ▸ hle) with hlt | heq
  · exact .inr (.inl (hall ▸ hlt))
  · -- without a parameter its segments are those of `c`, and it is `c`
    have hxlit := Claim.literals_eq_length_iff.1 (heq.trans hlen.symm)
    rw [Claim.capture_literal hxlit, Option.ite_none_right_eq_some, Option.some.injEq] at hparams
    obtain ⟨hsegments, hfound⟩ := hparams
    have hpath := h.path_eq_of_segments_eq ht hx.held hc hsegments
    have hclaim := h.eq_of_address hx.held hc hpath fun hhttp =>
      (hx.method hhttp).trans (hmethod hhttp).symm
    left
    rw [← hclaim, hfound]

end Coherent

end Registry

/-- But for the command line, the claim under the key of a request is what the scan would find, for
every path without a parameter and every method without a colon. -/
theorem lookup_eq_scan {config : Config} {r : Registry} (hr : Reachable config r) {t : Transport}
    (ht : t ≠ .cli) {method path : String} (hcolon : ':' ∉ method.toList)
    (hlit : ∀ s ∈ t.segments (Path.normalize path), Path.paramName s = none) :
    r.lookup t method path = r.scan t method path := by
  have h := hr.coherent
  cases hk : (r.paths.on t).get? (t.key (some (toUpper (trim method))) (Path.normalize path)) with
  | none => exact Registry.lookup_of_no_key hk
  | some c =>
    have hno : ':' ∉ (toUpper (trim method)).toList := by
      intro hm
      have htrim := colon_mem_of_toUpper hm
      rw [toList_trim] at htrim
      exact hcolon ((trimmed_sublist _).subset htrim)
    have hplace := Registry.address_or_straddles h (toUpper_toUpper _) hk
    obtain ⟨hpath, hmethod⟩ := hplace.resolve_right fun ⟨_, hs⟩ => hno hs.colon_mem
    obtain ⟨hc, hct, -⟩ := Registry.mem_claims_of_get? h hk
    have hsegments : c.segments = t.segments (Path.normalize path) := by
      rw [Claim.segments, hct, hpath]
    rw [← hsegments] at hlit
    have hcaptures : c.captures? (Path.normalize path) = some ∅ := by
      rw [Claim.captures?, hct, ← hsegments, Claim.capture_literal hlit, if_pos rfl]
    rw [Registry.lookup_of_key hk, hcaptures, Registry.scan, eq_comm,
      Registry.best_eq_some_iff (Registry.candidates_pairwise h t _ _)]
    refine ⟨(Registry.mem_candidates_iff h).2 ⟨hc, hmethod, hcaptures⟩, ?_⟩
    intro x hx
    have hfits := (Registry.mem_candidates_iff h).1 hx
    rw [← hpath] at hfits
    exact h.precedes_of_literal ht hc hmethod hlit hfits

/-- A module with an endpoint that the route of its items matches too. -/
def flashModule : Module where
  name := "flash"
  schema := .ofList [("title", { type := "string" })]
  channels :=
    { http := { enabled := true, basePath := some "/news",
                endpoints := [⟨"GET", "/news/latest", "list"⟩] } }

/-- A registry with this one module. -/
def flashRegistry : Registry := (({} : Registry).run [.register flashModule]).1

/-- A request for the endpoint, which two claims match, has the answer of the scan. -/
theorem latest_scanned :
    Reachable {} flashRegistry ∧
    ((flashRegistry.claims .http).filterMap (Registry.candidate? "GET" "/news/latest")).length = 2 ∧
    ∃ c ∈ flashRegistry.claims .http, c.path = "/news/latest" ∧
      flashRegistry.lookup .http " get " "/news//latest/" = some ⟨c, ∅⟩ ∧
      flashRegistry.scan .http " get " "/news//latest/" = some ⟨c, ∅⟩ := by
  have hr : Reachable {} flashRegistry := .run (.start rfl) _
  have heq : flashRegistry.lookup .http " get " "/news//latest/" =
      flashRegistry.scan .http " get " "/news//latest/" :=
    lookup_eq_scan hr (by decide) (by decide) (by decide +kernel)
  have hfound : flashRegistry.lookup .http " get " "/news//latest/" =
      some ⟨.http "GET" "/news/latest" "flash" "list", ∅⟩ := by decide +kernel
  exact ⟨hr, by decide +kernel, _, by decide +kernel, by decide, hfound, heq ▸ hfound⟩

end Registrar
