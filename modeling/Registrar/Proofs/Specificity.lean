import Mathlib.Data.Set.Defs
import Registrar.Proofs.Requests

/-!
# The most specific claim is found

A claim matches many lists of request segments. `Claim.StrictlyWithin S d c`: of the lists in `S`,
those that `d` matches are also matched by `c`, which matches others besides, so that `d` is the
more specific one. A lookup counts literal segments instead. The count agrees with inclusion
(`Claim.StrictlyWithin.literals_lt`), as a claim matches its own segments and inclusion is thus seen
on the segments of the two claims (`Claim.matches_of_covers`). What is found under the key of a
request is not counted at all; but any claim that fits such a request matches whatever that one
does. Hence no claim that fits a request is strictly within the one that is found
(`most_specific_found`).
-/

namespace Registrar

open Text

/-! ## Coverings -/

namespace Path

theorem Covers.trans {a b c : String} (hab : Covers a b) (hbc : Covers b c) : Covers a c := by
  intro ha
  have heq := hab ha
  subst heq
  exact hbc ha

theorem forall₂_covers_trans {as bs cs : List String} (hab : List.Forall₂ Covers as bs)
    (hbc : List.Forall₂ Covers bs cs) : List.Forall₂ Covers as cs := by
  induction hab generalizing cs with
  | nil => exact hbc
  | cons h _ ih =>
    cases hbc with
    | cons h' hbc => exact .cons (h.trans h') (ih hbc)

/-- The segments that are covered have the literals of those that cover them. If they have no
others, they cover them in turn. -/
theorem literals_le_of_covers {ss ts : List String} (h : List.Forall₂ Covers ss ts) :
    (ss.filter fun s => (paramName s).isNone).length ≤
        (ts.filter fun s => (paramName s).isNone).length ∧
      ((ts.filter fun s => (paramName s).isNone).length ≤
          (ss.filter fun s => (paramName s).isNone).length → List.Forall₂ Covers ts ss) := by
  induction h with
  | nil => exact ⟨Nat.le_refl _, fun _ => .nil⟩
  | @cons s t ss ts hst _ ih =>
    obtain ⟨hle, hback⟩ := ih
    cases hs : paramName s with
    | none =>
      -- the same literal on both sides
      have heq := hst hs
      subst heq
      simp only [List.filter_cons, hs, Option.isNone_none, if_true, List.length_cons]
      exact ⟨by omega, fun hge => .cons (fun _ => rfl) (hback (by omega))⟩
    | some name =>
      cases ht : paramName t with
      | none =>
        simp only [List.filter_cons, hs, ht, Option.isNone_none, Option.isNone_some, if_true,
          Bool.false_eq_true, if_false, List.length_cons]
        exact ⟨by omega, fun hge => absurd hge (by omega)⟩
      | some name' =>
        simp only [List.filter_cons, hs, ht, Option.isNone_some, Bool.false_eq_true, if_false]
        refine ⟨hle, fun hge => .cons (fun hn => ?_) (hback hge)⟩
        rw [ht] at hn
        cases hn

end Path

/-! ## What a claim matches -/

/-- The lists of segments that requests on the transport have. -/
def Transport.requests (t : Transport) : Set (List String) :=
  {rs | ∃ path, t.segments (Path.normalize path) = rs}

namespace Claim

/-- The claim matches a request with these segments. -/
def Matches (c : Claim) (rs : List String) : Prop := ∃ params, capture c.segments rs ∅ = some params

/-- Of the lists in `S` the claim `c` matches all that `d` matches, and one more. -/
structure StrictlyWithin (S : Set (List String)) (d c : Claim) : Prop where
  within : ∀ rs ∈ S, d.Matches rs → c.Matches rs
  beyond : ∃ rs ∈ S, c.Matches rs ∧ ¬ d.Matches rs

theorem matches_iff_covers {c : Claim} {rs : List String} :
    c.Matches rs ↔ List.Forall₂ Path.Covers c.segments rs :=
  exists_capture_iff

theorem matches_own_segments (c : Claim) : c.Matches c.segments := exists_capture_self _ _

/-- A claim that matches the segments of another matches all that this one does. -/
theorem matches_of_covers {c d : Claim} (h : d.Matches c.segments) {rs : List String}
    (hc : c.Matches rs) : d.Matches rs := by
  rw [matches_iff_covers] at h hc ⊢
  exact Path.forall₂_covers_trans h hc

theorem StrictlyWithin.not_matches {S : Set (List String)} {c d : Claim}
    (h : d.StrictlyWithin S c) : ¬ d.Matches c.segments := by
  obtain ⟨rs, -, hc, hd⟩ := h.beyond
  exact fun hm => hd (matches_of_covers hm hc)

/-- The more specific claim has more literals. -/
theorem StrictlyWithin.literals_lt {S : Set (List String)} {c d : Claim}
    (h : d.StrictlyWithin S c) (hd : d.segments ∈ S) : c.literals < d.literals := by
  have hcovers := matches_iff_covers.1 (h.within _ hd d.matches_own_segments)
  obtain ⟨-, hback⟩ := Path.literals_le_of_covers hcovers
  refine Nat.lt_of_not_le fun hle => h.not_matches ?_
  exact matches_iff_covers.2 (hback hle)

end Claim

/-! ## Lookups -/

namespace Registry

variable {r : Registry} {t : Transport}

theorem Fits.matches_segments {method path : String} {x : Match} (h : r.Coherent)
    (hx : r.Fits t method path x) : x.claim.Matches (t.segments path) := by
  obtain ⟨ht, -⟩ := (mem_claims_iff h).1 hx.held
  refine ⟨x.params, ?_⟩
  rw [← ht]
  exact hx.params

theorem Coherent.segments_mem_requests (h : r.Coherent) {c : Claim} (hc : c ∈ r.claims t) :
    c.segments ∈ t.requests := by
  obtain ⟨ht, -⟩ := (mem_claims_iff h).1 hc
  refine ⟨c.path, ?_⟩
  rw [h.normalize_path hc, Claim.segments, ht]

end Registry

/-- Of the claims that fit a request none is more specific than the one that is found, whether it is
found under the key of the request or by the scan. It does not matter of which lists of segments a
claim is to match fewer, as long as these are all that requests have. -/
theorem most_specific_found {config : Config} {r : Registry} (hr : Reachable config r)
    {t : Transport} {method path : String} {m : Match} (hm : r.lookup t method path = some m)
    {x : Match} (hx : r.Fits t (toUpper (trim method)) (Path.normalize path) x)
    {S : Set (List String)} (hS : ∀ rs ∈ t.requests, rs ∈ S) :
    ¬ x.claim.StrictlyWithin S m.claim := by
  have h := hr.coherent
  intro hwithin
  cases hk : (r.paths.on t).get? (t.key (some (toUpper (trim method))) (Path.normalize path)) with
  | some c =>
    rw [Registry.lookup_of_key hk] at hm
    cases hm
    rcases Registry.address_or_straddles h (toUpper_toUpper _) hk with ⟨hpath, -⟩ | ⟨rfl, hs⟩
    · -- the request has the very segments of the claim that is found
      obtain ⟨-, ht, -⟩ := Registry.mem_claims_of_get? h hk
      have hmatch := hx.matches_segments h
      rw [← hpath, ← ht] at hmatch
      exact hwithin.not_matches hmatch
    · -- with a colon in its method the request fits no claim
      obtain ⟨k, hxk, -, hcolon⟩ := h.method_of_http hx.held
      rw [hx.method rfl, Option.some.injEq] at hxk
      exact hcolon (hxk ▸ hs.colon_mem)
  | none =>
    rw [Registry.lookup_of_no_key hk] at hm
    have hin := (Registry.mem_candidates_iff h).2 hx
    have hle : x.claim.literals ≤ m.claim.literals := by
      rcases (Registry.best_precedes (Registry.candidates_pairwise h t _ _) hm).2 x hin with
        heq | hpre
      · rw [heq]
      · exact hpre.literals_le
    have hlt := hwithin.literals_lt (hS _ (h.segments_mem_requests hx.held))
    omega

/-- The endpoint of `flashModule`. -/
def flashLatest : Claim := .http "GET" "/news/latest" "flash" "list"

/-- The request for the endpoint also fits the route of the items, which is not the more specific
claim; the endpoint is, and it is found. -/
theorem latest_over_item :
    Reachable {} flashRegistry ∧
    flashRegistry.lookup .http "get" "/news/latest" = some ⟨flashLatest, ∅⟩ ∧
    (∃ x, flashRegistry.Fits .http "GET" "/news/latest" x ∧ x.claim = flashItem) ∧
    flashLatest.StrictlyWithin Transport.http.requests flashItem ∧
    ¬ flashItem.StrictlyWithin Transport.http.requests flashLatest := by
  have hr : Reachable {} flashRegistry := .run (.start rfl) _
  have hfound : flashRegistry.lookup .http "get" "/news/latest" = some ⟨flashLatest, ∅⟩ := by
    decide +kernel
  have hmethod : toUpper (trim "get") = "GET" := by decide
  have hpath : Path.normalize "/news/latest" = "/news/latest" := by decide
  have hlatest : flashLatest.segments = ["news", "latest"] := by decide
  have hitem : flashItem.segments = ["news", "{id}"] := by decide
  have hx : flashRegistry.Fits .http "GET" "/news/latest"
      ⟨flashItem, .ofList [("id", "latest")]⟩ :=
    ⟨by decide +kernel, fun _ => rfl, by decide +kernel⟩
  have hcovered : flashItem.Matches flashLatest.segments := by
    rw [Claim.matches_iff_covers, hlatest, hitem]
    exact .cons (fun _ => rfl) (.cons (fun hn => absurd hn (by decide)) .nil)
  refine ⟨hr, hfound, ⟨_, hx, rfl⟩, ⟨fun rs _ hrs => ?_, ?_⟩, ?_⟩
  · exact Claim.matches_of_covers hcovered hrs
  · -- a request for another item
    refine ⟨["news", "7"], ⟨"/news/7", by decide +kernel⟩, ?_, ?_⟩
    · rw [Claim.matches_iff_covers, hitem]
      exact .cons (fun _ => rfl) (.cons (fun hn => absurd hn (by decide)) .nil)
    · rw [Claim.matches_iff_covers, hlatest]
      rintro (_ | ⟨-, _ | ⟨hlast, -⟩⟩)
      exact absurd (hlast (by decide)) (by decide)
  · rw [← hmethod, ← hpath] at hx
    exact most_specific_found hr hfound hx fun _ hrs => hrs

end Registrar
