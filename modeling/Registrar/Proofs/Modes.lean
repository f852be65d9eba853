import Registrar.Proofs.Admission
import Registrar.Proofs.Derived

/-!
# The two modes of endpoints

Where explicit endpoints replace the implicit routes, a module claims part of what it claims where
they are added (`Module.claims_sublist_of_replace`), and off HTTP the same
(`Module.offHttp_claims`). Registries that differ in the mode alone are `Registry.Counterparts`.
What the adding one demands of a module, a sublist of its claims meets too
(`Registry.Counterparts.meets`), so replacing implicit routes only relaxes admission
(`replacing_relaxes`).
-/

namespace Registrar

/-! ## Claims off HTTP -/

/-- The claims of a list on other transports than HTTP. -/
def offHttp (cs : List Claim) : List Claim := cs.filter (·.transport ≠ .http)

/-- Claims that share a key are on one transport, so those off HTTP are told apart by themselves. -/
theorem offHttp_distinctClaims (cs : List Claim) :
    offHttp (distinctClaims cs).1 = (distinctClaims (offHttp cs)).1 :=
  distinctClaims_filter (fun c d hk => by rw [Claim.transport_eq_of_key_eq hk]) cs

namespace Module

variable (m : Module) (plural : String)

/-! ## What a module claims in either mode -/

theorem httpClaims_sublist_of_replace :
    (m.httpClaims .replaceImplicit plural).Sublist (m.httpClaims .additive plural) := by
  have hadd : m.httpClaims .additive plural = m.implicitRoutes plural ++ m.explicitRoutes := rfl
  rw [hadd, httpClaims]
  split
  · exact List.sublist_append_right _ _
  · exact .refl _

/-- Replacing the implicit routes leaves claims out, and adds none. -/
theorem claims_sublist_of_replace :
    (m.claims .replaceImplicit plural).Sublist (m.claims .additive plural) := by
  have hhttp : List.Sublist
      (if m.channels.http.enabled then m.httpClaims .replaceImplicit plural else [])
      (if m.channels.http.enabled then m.httpClaims .additive plural else []) := by
    split
    · exact m.httpClaims_sublist_of_replace plural
    · exact .refl _
  simp only [claims, List.append_assoc]
  exact hhttp.append (.refl _)

theorem offHttp_httpClaims (mode : EndpointMode) : offHttp (m.httpClaims mode plural) = [] := by
  refine List.filter_eq_nil_iff.2 fun c hc => ?_
  obtain ⟨method, path, action, rfl, -⟩ := mem_httpClaims hc
  simp [Claim.http]

/-- The mode of endpoints is of no account off HTTP. -/
theorem offHttp_claims (mode : EndpointMode) :
    offHttp (m.claims mode plural) = offHttp (m.claims .additive plural) := by
  have hrest : ∀ mode rest,
      offHttp ((if m.channels.http.enabled then m.httpClaims mode plural else []) ++ rest) =
        offHttp rest := by
    intro mode rest
    rw [offHttp, List.filter_append]
    split
    · rw [← offHttp, m.offHttp_httpClaims plural mode]
      rfl
    · rfl
  simp only [claims, List.append_assoc, hrest]

/-- Without explicit endpoints there is nothing to replace implicit routes with. -/
theorem claims_of_no_endpoints (h : m.channels.http.endpoints = []) (mode : EndpointMode) :
    m.claims mode plural = m.claims .additive plural := by
  have hreplace : ∀ mode, m.replacesImplicit mode = false := by
    intro mode
    simp [replacesImplicit, h]
  simp only [claims, httpClaims, hreplace]

end Module

/-! ## Registries that differ in the mode -/

namespace Registry

/-- The registries hold the same under the same limits; the first adds explicit endpoints to the
implicit routes, and in the second they replace these. -/
structure Counterparts (r r' : Registry) : Prop where
  adds : r.config.endpoints = .additive
  replaces : r'.config.endpoints = .replaceImplicit
  maxModules : r'.config.maxModules = r.config.maxModules
  maxClaims : r'.config.maxClaims = r.config.maxClaims
  modules : r'.modules = r.modules
  tables : r'.tables = r.tables
  paths : r'.paths = r.paths

namespace Counterparts

variable {r r' : Registry} (h : r.Counterparts r') {m : Module}
include h

theorem derived_sublist : (r'.derived m).Sublist (r.derived m) := by
  rw [derived, derived, h.adds, h.replaces]
  exact m.claims_sublist_of_replace m.plural

theorem addressCount_le : r'.addressCount m ≤ r.addressCount m := by
  refine Finset.card_le_card fun k hk => ?_
  simp only [List.mem_toFinset] at hk ⊢
  exact (h.derived_sublist.map _).subset hk

/-- A module that meets the demands of the one registry meets those of the other. -/
theorem meets (hm : ∀ d, r.Meets m d) (d : Demand) : r'.Meets m d := by
  have hsub := h.derived_sublist (m := m) |>.subset
  cases d with
  | ordinary => exact hm .ordinary
  | newName =>
    show r'.modules.get? m.name = none
    rw [h.modules]
    exact hm .newName
  | valid => exact hm .valid
  | room =>
    have hroom : r.modules.size < r.config.maxModules := hm .room
    show r'.modules.size < r'.config.maxModules
    rwa [h.modules, h.maxModules]
  | fewClaims =>
    have hfew : r.addressCount m ≤ r.config.maxClaims := hm .fewClaims
    show r'.addressCount m ≤ r'.config.maxClaims
    rw [h.maxClaims]
    exact h.addressCount_le.trans hfew
  | freeTable =>
    show r'.tables.get? m.table = none
    rw [h.tables]
    exact hm .freeTable
  | agreement => exact fun c hc d hd => hm .agreement c (hsub hc) d (hsub hd)
  | freePaths =>
    intro c hc
    rw [h.paths]
    exact hm .freePaths c (hsub hc)

end Counterparts

end Registry

/-- Replacing implicit routes only relaxes admission. A module that the registry which adds explicit
endpoints admits is admitted where they replace the implicit routes: with keys that it has there
too, for the same actions, with the same claims off HTTP, and with the same claims at all if it
declares no explicit endpoint. -/
theorem replacing_relaxes {r r' : Registry} (h : r.Counterparts r') {m : Module} {s : Registry}
    {e : Registration} (hr : r.register m = .ok (s, e)) :
    ∃ s' e', r'.register m = .ok (s', e') ∧
      (∀ c ∈ e'.claims, ∃ d ∈ e.claims, d.key = c.key ∧ d.action = c.action) ∧
      offHttp e'.claims = offHttp e.claims ∧
      (m.channels.http.endpoints = [] → e'.claims = e.claims) := by
  obtain ⟨hm, rfl, -⟩ := Registry.register_eq_ok_iff.1 hr
  have hderived : ∀ q : Registry, q.derived m = m.claims q.config.endpoints m.plural := fun _ => rfl
  refine ⟨_, _, Registry.register_of_met (h.meets hm), fun c hc => ?_, ?_, fun he => ?_⟩
  · -- the claim that is kept under the key is for the same action, or the module would be refused
    have hin := h.derived_sublist.subset ((distinctClaims_sublist _).subset hc)
    obtain ⟨d, hd, hk⟩ := exists_distinct_key hin
    exact ⟨d, hd, hk, hm .agreement d ((distinctClaims_sublist _).subset hd) c hin hk⟩
  · rw [Registry.propose_claims, Registry.propose_claims, offHttp_distinctClaims,
      offHttp_distinctClaims, hderived, hderived, m.offHttp_claims m.plural r'.config.endpoints,
      m.offHttp_claims m.plural r.config.endpoints]
  · rw [Registry.propose_claims, Registry.propose_claims, hderived, hderived,
      m.claims_of_no_endpoints m.plural he r'.config.endpoints,
      m.claims_of_no_endpoints m.plural he r.config.endpoints]

/-- A module over HTTP and on the command line. -/
def briefModule (name : String) (endpoints : List Endpoint) : Module where
  name := name
  schema := .ofList [("title", { type := "string" })]
  channels := { http := { enabled := true, endpoints }, cli := { enabled := true } }

/-- A registry with one such module, which declares no explicit endpoint. -/
def briefRegistry (mode : EndpointMode) : Registry :=
  (({ config := { endpoints := mode } } : Registry).run [.register (briefModule "memo" [])]).1

/-- Of two endpoints one repeats an implicit route. Added to the implicit routes it is dropped, and
where they replace these it is the first with its key. -/
theorem repeated_route_replaced :
    let m := briefModule "brief" [⟨"GET", "/briefs", "list"⟩, ⟨"GET", "/briefs/latest", "list"⟩]
    (briefRegistry .additive).Counterparts (briefRegistry .replaceImplicit) ∧
    ∃ s e, (briefRegistry .additive).register m = .ok (s, e) ∧ e.claims.length = 11 ∧
      ∃ s' e', (briefRegistry .replaceImplicit).register m = .ok (s', e') ∧
        (∀ c ∈ e'.claims, ∃ d ∈ e.claims, d.key = c.key ∧ d.action = c.action) ∧
        offHttp e'.claims = offHttp e.claims := by
  intro m
  have h : (briefRegistry .additive).Counterparts (briefRegistry .replaceImplicit) :=
    ⟨rfl, rfl, rfl, rfl, by decide +kernel, by decide +kernel, by decide +kernel⟩
  let e := ((briefRegistry .additive).propose m).1
  have hreg : (briefRegistry .additive).register m =
      .ok ((briefRegistry .additive).enroll e, e) := by decide +kernel
  have hlen : e.claims.length = 11 := by decide +kernel
  obtain ⟨s', e', hreg', hkeys, hoff, -⟩ := replacing_relaxes h hreg
  exact ⟨h, _, e, hreg, hlen, s', e', hreg', hkeys, hoff⟩

end Registrar
