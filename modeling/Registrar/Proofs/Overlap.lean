import Registrar.Proofs.Resolution
import Registrar.Proofs.Segments
import Mathlib.Data.List.Forall2

/-!
# HTTP claims with the same pattern

`Path.Alike` compares two segments of claims as requests see them: two parameters are alike whatever
they are called. `Path.Same` compares the names as well. A registry tells claims apart by keys,
which hold the names, so patterns that are alike up to names can stand side by side
(`alike_patterns_side_by_side`), while two claims on one method whose segments are the same are one
claim (`http_claim_eq_iff`).
-/

namespace Registrar

namespace Path

/-- Both segments are parameters, or they are the same literal. -/
def Alike (s t : String) : Prop :=
  ((paramName s).isSome ∧ (paramName t).isSome) ∨
    (paramName s = none ∧ paramName t = none ∧ s = t)

/-- Both segments are parameters of the same name, or they are the same literal. -/
def Same (s t : String) : Prop :=
  (∃ name, paramName s = some name ∧ paramName t = some name) ∨
    (paramName s = none ∧ paramName t = none ∧ s = t)

theorem same_iff_eq {s t : String} : Same s t ↔ s = t := by
  constructor
  · rintro (⟨name, hs, ht⟩ | ⟨-, -, h⟩)
    · rw [← String.toList_inj, toList_of_paramName hs, toList_of_paramName ht]
    · exact h
  · rintro rfl
    cases h : paramName s with
    | none => exact .inr ⟨h, h, rfl⟩
    | some name => exact .inl ⟨name, h, h⟩

end Path

theorem forall₂_same_iff {ss ts : List String} : List.Forall₂ Path.Same ss ts ↔ ss = ts := by
  have hsame : Path.Same = fun s t : String => s = t := by
    funext s t
    exact propext Path.same_iff_eq
  rw [hsame, List.forall₂_eq_eq_eq]

/-! ## In a registry -/

namespace Registry.Coherent

variable {r : Registry} (h : r.Coherent)
include h

/-- But for the command line the path of a claim is the canonical form of one that starts with a
slash. -/
theorem exists_absolute {t : Transport} (ht : t ≠ .cli) {c : Claim} (hc : c ∈ r.claims t) :
    ∃ path, isAbsolute path = true ∧ c.path = Path.normalize path := by
  obtain ⟨m, plural, hv, hm⟩ := exists_maker h hc
  have hct := ((mem_claims_iff h).1 hc).1
  exact Module.claim_path hv hm (hct ▸ ht)

/-- Such a path is made of its segments. -/
theorem toList_path {t : Transport} (ht : t ≠ .cli) {c : Claim} (hc : c ∈ r.claims t) :
    c.path.toList = '/' :: ['/'].intercalate (c.segments.map String.toList) := by
  obtain ⟨path, habs, hpath⟩ := h.exists_absolute ht hc
  rw [Claim.segments, ((mem_claims_iff h).1 hc).1, hpath]
  exact Path.toList_normalize ht habs

theorem path_eq_of_segments_eq {t : Transport} (ht : t ≠ .cli) {c d : Claim} (hc : c ∈ r.claims t)
    (hd : d ∈ r.claims t) (hs : c.segments = d.segments) : c.path = d.path := by
  rw [← String.toList_inj, h.toList_path ht hc, h.toList_path ht hd, hs]

end Registry.Coherent

/-- HTTP claims are told apart by their methods and their segments, names of parameters included: on
one method no two claims have the same segments. -/
theorem http_claim_eq_iff {config : Config} {r : Registry} (hr : Reachable config r) {c d : Claim}
    (hc : c ∈ r.claims .http) (hd : d ∈ r.claims .http) :
    c = d ↔ c.method = d.method ∧ List.Forall₂ Path.Same c.segments d.segments := by
  have h := hr.coherent
  rw [forall₂_same_iff]
  constructor
  · rintro rfl
    exact ⟨rfl, rfl⟩
  · rintro ⟨hmethod, hsegments⟩
    obtain ⟨hct, hch⟩ := (Registry.mem_claims_iff h).1 hc
    obtain ⟨hdt, hdh⟩ := (Registry.mem_claims_iff h).1 hd
    have hpath := h.path_eq_of_segments_eq (by decide) hc hd hsegments
    have hkey : d.key = c.key := by
      unfold Claim.key
      rw [hct, hdt, hmethod, hpath]
    exact h.eq_of_isAt hch hdh ⟨rfl, rfl⟩ ⟨hdt.trans hct.symm, hkey⟩

/-- A module with one endpoint, which has a parameter. -/
def readerModule (name path : String) : Module where
  name := name
  schema := .ofList [("title", { type := "string" })]
  channels := { http := { enabled := true, endpoints := [⟨"GET", path, "get"⟩] } }

/-- A registry of two modules whose endpoints differ in the name of a parameter. -/
def readerRegistry : Registry :=
  (({} : Registry).run [.register (readerModule "file" "/disk/:name"),
    .register (readerModule "page" "/disk/:path")]).1

/-- The endpoint of the one module. -/
def fileClaim : Claim := .http "GET" "/disk/:name" "file" "get"

/-- The endpoint of the other. -/
def pageClaim : Claim := .http "GET" "/disk/:path" "page" "get"

theorem readerClaims_held :
    fileClaim ∈ readerRegistry.claims .http ∧ pageClaim ∈ readerRegistry.claims .http := by
  decide +kernel

/-- A parameter of another name makes another claim. -/
theorem names_tell_claims_apart :
    Reachable {} readerRegistry ∧ fileClaim ∈ readerRegistry.claims .http ∧
      pageClaim ∈ readerRegistry.claims .http ∧ fileClaim.method = pageClaim.method ∧
      ¬ List.Forall₂ Path.Same fileClaim.segments pageClaim.segments := by
  have hr : Reachable {} readerRegistry := .run (.start rfl) _
  obtain ⟨hfile, hpage⟩ := readerClaims_held
  have hne : fileClaim ≠ pageClaim := by decide
  exact ⟨hr, hfile, hpage, rfl, fun hs => hne ((http_claim_eq_iff hr hfile hpage).2 ⟨rfl, hs⟩)⟩

/-- Two claims on one method are held whose segments are alike, position by position. -/
theorem alike_patterns_side_by_side :
    Reachable {} readerRegistry ∧ fileClaim ∈ readerRegistry.claims .http ∧
      pageClaim ∈ readerRegistry.claims .http ∧ fileClaim ≠ pageClaim ∧
      fileClaim.method = pageClaim.method ∧
      List.Forall₂ Path.Alike fileClaim.segments pageClaim.segments := by
  have hfile : fileClaim.segments = ["disk", "\x7bname\x7d"] := by decide
  have hpage : pageClaim.segments = ["disk", "\x7bpath\x7d"] := by decide
  refine ⟨.run (.start rfl) _, readerClaims_held.1, readerClaims_held.2, by decide, rfl, ?_⟩
  rw [hfile, hpage]
  exact .cons (.inr (by decide)) (.cons (.inl (by decide)) .nil)

end Registrar
