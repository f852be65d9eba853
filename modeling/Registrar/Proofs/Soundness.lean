import Registrar.Proofs.Resolution
import Registrar.Proofs.UpperCase
import Mathlib.Data.List.Forall2

/-!
# When a lookup is sound

A claim under the very key of a request is not compared with the request again. Off HTTP the key
gives the path, so that such a claim serves the request. Over HTTP a method that runs on into a path
has the key of another method and path: the claim there *straddles* the request
(`Claim.Straddles`). A lookup gives a match that does not serve the request if and only if a claim
straddles it (`lookup_sound_iff`), for which the method of the request has to hold a colon.
-/

namespace Registrar

open Text

/-! ## Captures -/

/-- The segment of a claim is a parameter, or it is that of the request. -/
def Path.Covers (s r : String) : Prop := paramName s = none → s = r

namespace Claim

/-- The segments of a claim capture those of a request that they cover one by one. -/
theorem exists_capture_iff {ss rs : List String} {found : Dict String} :
    (∃ params, capture ss rs found = some params) ↔ List.Forall₂ Path.Covers ss rs := by
  induction ss generalizing rs found with
  | nil => cases rs <;> simp [capture]
  | cons s ss ih =>
    cases rs with
    | nil => simp [capture]
    | cons r rs =>
      rw [List.forall₂_cons, Path.Covers, capture]
      cases hs : Path.paramName s with
      | some name => simp [ih]
      | none =>
        by_cases hsr : s = r
        · simp [hsr, ih]
        · simp [hsr]

theorem exists_capture_self (ss : List String) (found : Dict String) :
    ∃ params, capture ss ss found = some params :=
  exists_capture_iff.2 (List.forall₂_same.2 fun _ _ _ => rfl)

theorem exists_captures_path (c : Claim) : ∃ params, c.captures? c.path = some params :=
  exists_capture_self _ _

/-! ## Keys of claims and requests -/

/-- The method of the request is that of the claim with a colon and a beginning of the claim's path,
and the path of the request is what follows in the claim's path after one more colon. -/
def Straddles (c : Claim) (method path : String) : Prop :=
  ∃ m s, c.method = some m ∧ method = m ++ ":" ++ s ∧ c.path = s ++ ":" ++ path

theorem Straddles.method_ne {c : Claim} {method path : String} (h : c.Straddles method path) :
    c.method ≠ some method := by
  obtain ⟨m, s, hm, rfl, -⟩ := h
  rw [hm]
  intro he
  have hlen := congrArg String.length (Option.some.inj he)
  simp only [String.length_append] at hlen
  have : ":".length = 1 := rfl
  omega

theorem Straddles.colon_mem {c : Claim} {method path : String} (h : c.Straddles method path) :
    ':' ∈ method.toList := by
  obtain ⟨m, s, -, rfl, -⟩ := h
  simp [String.toList_append]

/-- An HTTP claim with a known method has the key of the requests for its method and path, and of
those it straddles. -/
theorem key_eq_http_iff {c : Claim} (ht : c.transport = .http) {m : String} (hm : m ∈ httpMethods)
    (hc : c.method = some m) {method path : String} (hu : toUpper method = method) :
    c.key = Transport.key .http (some method) path ↔
      (c.method = some method ∧ c.path = path) ∨ c.Straddles method path := by
  have hup : ∀ k ∈ httpMethods, toUpper k = k ∧ ':' ∉ k.toList := by decide
  obtain ⟨hmu, hcolon⟩ := hup m hm
  have hkey := Transport.key_http_eq_iff (a := m) (b := method) (p := c.path) (q := path)
    (by rwa [hmu])
  rw [hmu, hu] at hkey
  rw [key, ht, hc, eq_comm, hkey]
  constructor
  · rintro (⟨rfl, rfl⟩ | ⟨s, hs, hp⟩)
    · exact .inl ⟨rfl, rfl⟩
    · exact .inr ⟨m, s, hc, hs, hp⟩
  · rintro (⟨he, hp⟩ | ⟨m', s, hm', hs, hp⟩)
    · exact .inl ⟨(Option.some.inj he).symm, hp.symm⟩
    · rw [hc] at hm'
      cases hm'
      exact .inr ⟨s, hs, hp⟩

end Claim

namespace Registry

section
variable {r : Registry} (hr : r.Coherent)
include hr

theorem method_mem {c : Claim} (hc : c ∈ r.claims .http) :
    ∃ m ∈ httpMethods, c.method = some m := by
  obtain ⟨m, plural, hv, hm⟩ := exists_maker hr hc
  exact Module.claim_method hv hm ((mem_claims_iff hr).1 hc).1

theorem mem_claims_of_get? {t : Transport} {k : String} {c : Claim}
    (h : (r.paths.on t).get? k = some c) : c ∈ r.claims t ∧ c.transport = t ∧ c.key = k :=
  ⟨Dict.mem_values_iff.2 ⟨k, h⟩, ((hr.paths t k c).1 h).1⟩

/-! ## The claim under the key of a request -/

/-- The claim under the key of a request has its address, or it straddles the request. -/
theorem address_or_straddles {t : Transport} {method path : String} {c : Claim}
    (hu : toUpper method = method) (h : (r.paths.on t).get? (t.key (some method) path) = some c) :
    (c.path = path ∧ (t = .http → c.method = some method)) ∨
      (t = .http ∧ c.Straddles method path) := by
  obtain ⟨hc, ht, hk⟩ := mem_claims_of_get? hr h
  by_cases hhttp : t = .http
  · subst hhttp
    obtain ⟨m, hm, hcm⟩ := method_mem hr hc
    rcases (Claim.key_eq_http_iff ht hm hcm hu).1 hk with ⟨hmeth, hpath⟩ | hs
    · exact .inl ⟨hpath, fun _ => hmeth⟩
    · exact .inr ⟨rfl, hs⟩
  · subst ht
    exact .inl ⟨Transport.path_eq_of_key_eq hhttp hk, fun he => absurd he hhttp⟩

/-- What the claim under the key of a request has to do with the request. -/
theorem fits_or_straddles {t : Transport} {method path : String} {c : Claim}
    (hu : toUpper method = method) (h : (r.paths.on t).get? (t.key (some method) path) = some c) :
    r.Fits t method path ⟨c, (c.captures? path).getD ∅⟩ ∨
      (t = .http ∧ c.Straddles method path) := by
  refine (address_or_straddles hr hu h).imp_left fun ⟨hpath, hmeth⟩ => ?_
  obtain ⟨params, hp⟩ := c.exists_captures_path
  rw [hpath] at hp
  exact ⟨(mem_claims_of_get? hr h).1, hmeth, by rw [hp]; rfl⟩

theorem get?_of_straddles {method path : String} {c : Claim} (hu : toUpper method = method)
    (hc : c ∈ r.claims .http) (hs : c.Straddles method path) :
    (r.paths.on .http).get? (Transport.key .http (some method) path) = some c := by
  obtain ⟨ht, hh⟩ := (mem_claims_iff hr).1 hc
  obtain ⟨m, hm, hcm⟩ := method_mem hr hc
  exact (hr.paths _ _ _).2 ⟨⟨ht, (Claim.key_eq_http_iff ht hm hcm hu).2 (.inr hs)⟩, hh⟩

/-- A match that the pattern scan finds serves the request. -/
theorem fits_of_no_key {t : Transport} {method path : String} {m : Match}
    (hk : (r.paths.on t).get? (t.key (some (toUpper (trim method))) (Path.normalize path)) = none)
    (h : r.lookup t method path = some m) :
    r.Fits t (toUpper (trim method)) (Path.normalize path) m := by
  rw [lookup_of_no_key hk] at h
  exact (mem_candidates_iff hr).1 (best_precedes (candidates_pairwise hr t _ _) h).1

end

end Registry

/-- A lookup finds a claim that the registry holds on the transport. Each match serves the request
unless a claim straddles it, and such a claim is then the one that is found. -/
theorem lookup_sound_iff {config : Config} {r : Registry} (hr : Reachable config r) (t : Transport)
    (method path : String) :
    let M := toUpper (trim method)
    let P := Path.normalize path
    (∀ m, r.lookup t method path = some m → m.claim ∈ r.claims t ∧ m.claim.transport = t) ∧
    ((∀ m, r.lookup t method path = some m → r.Fits t M P m) ↔
      ¬ (t = .http ∧ ∃ c ∈ r.claims .http, c.Straddles M P)) ∧
    (t = .http → ∀ c ∈ r.claims .http, c.Straddles M P →
      r.lookup t method path = some ⟨c, (c.captures? P).getD ∅⟩ ∧ c.method ≠ some M) := by
  intro M P
  have hc := hr.coherent
  have hu : toUpper M = M := toUpper_toUpper _
  have hstraddle : ∀ c ∈ r.claims .http, c.Straddles M P →
      r.lookup .http method path = some ⟨c, (c.captures? P).getD ∅⟩ := fun c hm hs =>
    Registry.lookup_of_key (Registry.get?_of_straddles hc hu hm hs)
  refine ⟨fun m hm => ?_, ⟨fun h => ?_, fun h m hm => ?_⟩, ?_⟩
  · have hheld : m.claim ∈ r.claims t := by
      cases hk : (r.paths.on t).get? (t.key (some M) P) with
      | some c =>
        rw [Registry.lookup_of_key hk] at hm
        cases hm
        exact (Registry.mem_claims_of_get? hc hk).1
      | none => exact (Registry.fits_of_no_key hc hk hm).held
    exact ⟨hheld, ((Registry.mem_claims_iff hc).1 hheld).1⟩
  · rintro ⟨rfl, c, hm, hs⟩
    exact hs.method_ne ((h _ (hstraddle c hm hs)).method rfl)
  · cases hk : (r.paths.on t).get? (t.key (some M) P) with
    | some c =>
      rw [Registry.lookup_of_key hk] at hm
      cases hm
      refine (Registry.fits_or_straddles hc hu hk).resolve_right fun ⟨ht, hs⟩ => h ⟨ht, c, ?_, hs⟩
      exact ht ▸ (Registry.mem_claims_of_get? hc hk).1
    | none => exact Registry.fits_of_no_key hc hk hm
  · rintro rfl c hm hs
    exact ⟨hstraddle c hm hs, hs.method_ne⟩

/-- Without a colon in the method a match serves the request. -/
theorem lookup_sound_of_known_method :
    Reachable {} noteRegistry ∧ (noteRegistry.lookup .http "get" "/notes/7").isSome = true ∧
      ∀ m, noteRegistry.lookup .http "get" "/notes/7" = some m →
        noteRegistry.Fits .http "GET" "/notes/7" m := by
  have hr : Reachable {} noteRegistry := .run (.start rfl) _
  have hmethod : toUpper (trim "get") = "GET" := by decide
  have hpath : Path.normalize "/notes/7" = "/notes/7" := by decide
  have h := (lookup_sound_iff hr .http "get" "/notes/7").2.1
  rw [hmethod, hpath] at h
  refine ⟨hr, by decide +kernel, h.2 ?_⟩
  rintro ⟨-, c, -, hs⟩
  exact absurd hs.colon_mem (by decide)

/-- The claim of `GET /A:x` is found for a request with the method `GET:/A` and the path `x`, though
it has another method and its path does not match. -/
theorem lookup_across_colon :
    Reachable {} noteRegistry ∧ ∃ c ∈ noteRegistry.claims .http,
      noteRegistry.lookup .http "GET:/A" "x" = some ⟨c, ∅⟩ ∧
      c.method ≠ some (toUpper (trim "GET:/A")) ∧ c.captures? (Path.normalize "x") = none := by
  have hr : Reachable {} noteRegistry := .run (.start rfl) _
  exact ⟨hr, .http "GET" "/A:x" "note" "list", by decide +kernel, by decide +kernel,
    by decide +kernel, by decide +kernel⟩

end Registrar
