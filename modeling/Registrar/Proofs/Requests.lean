import Registrar.Proofs.NormalForm
import Registrar.Proofs.Shortcut

/-!
# Requests that claims serve

The paths of claims are normal, so a request for the path of a claim is looked up under the key of
the claim and finds it. An HTTP claim is met by further requests: those with values in the place of
its parameters (`Path.Fills`). The segments of such a request are canonical, hence it is compared as
it stands, and its answer has at least the literals of the claim, be it found under its key
(`Path.Fills.literals_le`) or by the scan (`Registry.Coherent.exists_lookup`). Both halves are in
`claims_serve`.
-/

namespace Registrar

open Text

namespace Path

/-! ## Paths made of segments -/

/-- The path with these segments. -/
def ofSegments (ss : List String) : String := "/" ++ "/".intercalate ss

theorem toList_ofSegments (ss : List String) :
    (ofSegments ss).toList = '/' :: ['/'].intercalate (ss.map String.toList) := by
  rw [ofSegments, String.toList_append, String.toList_intercalate]
  rfl

theorem normalize_ofSegments {ss : List String} (h : ∀ s ∈ ss, IsCanonical s.toList) :
    normalize (ofSegments ss) = ofSegments ss := by
  apply normalize_eq_self
  rw [toList_ofSegments]
  exact .rooted (List.forall_mem_map.2 h)

theorem segments_ofSegments {t : Transport} (ht : t ≠ .cli) {ss : List String}
    (h : ∀ s ∈ ss, IsCanonical s.toList) : t.segments (ofSegments ss) = ss := by
  have hsplit := splitOn_join (List.forall_mem_map.2 fun s hs => (h s hs).segment)
  cases t with
  | cli => exact absurd rfl ht
  | _ =>
    simp only [Transport.segments, toList_ofSegments, hsplit, List.map_map]
    simp [Function.comp_def]

/-! ## Values of parameters -/

/-- What a request may have in the place of a parameter: a text that is no other spelling of a
parameter, without a slash or blanks around it. -/
structure IsValue (r : String) : Prop where
  nonempty : r ≠ ""
  slash : '/' ∉ r.toList
  trimmed : trim r = r
  colon : r.toList.head? ≠ some ':'
  angle : r.toList.head? ≠ some '<'

/-- The segment of a request has a value where that of the claim is a parameter, and is the same
where it is none. -/
inductive Fills : String → String → Prop
  | literal {s : String} (h : paramName s = none) : Fills s s
  | value {s r : String} (h : (paramName s).isSome) (hr : IsValue r) : Fills s r

theorem IsValue.isCanonical {r : String} (h : IsValue r) : IsCanonical r.toList where
  segment := ⟨mt String.toList_eq_nil_iff.1 h.nonempty, h.slash⟩
  trimmed := by rw [← toList_trim, h.trimmed]
  canonical := canonicalSegment_eq_self h.colon fun ha => h.angle ha.1

theorem Fills.covers {s r : String} (h : Fills s r) : Covers s r := by
  intro hs
  cases h with
  | literal => rfl
  | value hp => rw [hs] at hp; cases hp

theorem Fills.isCanonical {ss rs : List String} (h : List.Forall₂ Fills ss rs)
    (hss : ∀ s ∈ ss, IsCanonical s.toList) : ∀ r ∈ rs, IsCanonical r.toList := by
  induction h with
  | nil => exact List.forall_mem_nil _
  | cons hsr _ ih =>
    obtain ⟨hs, hss⟩ := List.forall_mem_cons.1 hss
    refine List.forall_mem_cons.2 ⟨?_, ih hss⟩
    cases hsr with
    | literal => exact hs
    | value _ hr => exact hr.isCanonical

/-- The literals stay when parameters get values. -/
theorem Fills.literals_le {ss rs : List String} (h : List.Forall₂ Fills ss rs) :
    (ss.filter fun s => (paramName s).isNone).length ≤
      (rs.filter fun s => (paramName s).isNone).length := by
  induction h with
  | nil => exact Nat.le_refl _
  | @cons s r ss rs hsr _ ih =>
    cases hsr with
    | literal hs => simpa [hs] using ih
    | value hp _ =>
      rw [List.filter_cons_of_neg (by simpa [Option.isSome_iff_ne_none] using hp)]
      exact Nat.le_trans ih (List.Sublist.length_le (.filter _ (List.sublist_cons_self r rs)))

end Path

/-! ## In a registry -/

theorem Claim.Precedes.literals_le {a b : Claim} (h : a.Precedes b) : b.literals ≤ a.literals := by
  rcases h with h | ⟨h, -⟩
  · exact Nat.le_of_lt h
  · exact Nat.le_of_eq h.symm

namespace Registry.Coherent

variable {r : Registry} (h : r.Coherent) {t : Transport} {c : Claim}
include h

theorem method_of_http (hc : c ∈ r.claims .http) :
    ∃ m, c.method = some m ∧ toUpper (trim m) = m ∧ ':' ∉ m.toList := by
  obtain ⟨m, hm, hcm⟩ := method_mem h hc
  have hknown : ∀ m ∈ httpMethods, toUpper (trim m) = m ∧ ':' ∉ m.toList := by decide
  exact ⟨m, hcm, hknown m hm⟩

section
variable (hc : c ∈ r.claims t)
include hc

theorem isNormal_path : Path.IsNormal c.path.toList := by
  obtain ⟨m, plural, hv, hm⟩ := exists_maker h hc
  exact Module.isNormal_claim_path hv hm

theorem normalize_path : Path.normalize c.path = c.path :=
  Path.normalize_eq_self (h.isNormal_path hc)

theorem isCanonical_of_mem_segments (ht : t ≠ .cli) {s : String} (hs : s ∈ c.segments) :
    Path.IsCanonical s.toList := by
  obtain ⟨m, plural, hv, hm⟩ := exists_maker h hc
  rw [← ((mem_claims_iff h).1 hc).1] at ht
  exact Module.isCanonical_of_mem_segments hv hm ht hs

theorem path_eq_ofSegments (ht : t ≠ .cli) : c.path = Path.ofSegments c.segments := by
  rw [← String.toList_inj, Path.toList_ofSegments]
  exact h.toList_path ht hc

/-- The request with the method of a claim and the path of the claim has its key. -/
theorem get?_own_address :
    (r.paths.on t).get? (t.key (some (toUpper (trim (c.method.getD "")))) c.path) = some c := by
  obtain ⟨hct, hch⟩ := (mem_claims_iff h).1 hc
  have hkey : t.key (some (toUpper (trim (c.method.getD "")))) c.path = c.key := by
    rw [Claim.key, hct]
    cases t with
    | http =>
      obtain ⟨m, hcm, hm, -⟩ := h.method_of_http hc
      rw [hcm, Option.getD_some, hm]
    | _ => rfl
  rw [hkey, ← hct]
  exact h.get?_of_holds hch

end

/-- Where a claim fits a request that no claim has the key of, the answer has no fewer literals. -/
theorem exists_lookup {method path : String} {x : Match}
    (hk : (r.paths.on t).get? (t.key (some (toUpper (trim method))) (Path.normalize path)) = none)
    (hx : r.Fits t (toUpper (trim method)) (Path.normalize path) x) :
    ∃ m, r.lookup t method path = some m ∧ x.claim.literals ≤ m.claim.literals := by
  have hin := (mem_candidates_iff h).2 hx
  rw [lookup_of_no_key hk]
  obtain ⟨m, hm⟩ := exists_best hin
  refine ⟨m, hm, ?_⟩
  rcases (best_precedes (candidates_pairwise h t _ _) hm).2 x hin with rfl | hpre
  · exact Nat.le_refl _
  · exact hpre.literals_le

/-- A request with values in the place of the parameters of an HTTP claim has an answer with no
fewer literals. -/
theorem lookup_of_fills (hc : c ∈ r.claims .http) {rs : List String}
    (hrs : List.Forall₂ Path.Fills c.segments rs) :
    ∃ m, r.lookup .http (c.method.getD "") (Path.ofSegments rs) = some m ∧
      c.literals ≤ m.claim.literals := by
  have ht : Transport.http ≠ .cli := by decide
  have hcan := Path.Fills.isCanonical hrs fun s hs => h.isCanonical_of_mem_segments hc ht hs
  have hnorm := Path.normalize_ofSegments hcan
  have hsegments := Path.segments_ofSegments ht hcan
  obtain ⟨m, hcm, hm, hcolon⟩ := h.method_of_http hc
  rw [hcm, Option.getD_some]
  cases hk : (r.paths.on .http).get?
      (Transport.key .http (some (toUpper (trim m))) (Path.normalize (Path.ofSegments rs))) with
  | some d =>
    -- the claim on the very path of the request: its literals are those of the request
    refine ⟨_, lookup_of_key hk, ?_⟩
    rw [hm, hnorm] at hk
    have hu : toUpper m = m := by rw [← hm, toUpper_toUpper]
    obtain ⟨hpath, -⟩ := (address_or_straddles h hu hk).resolve_right
      fun ⟨_, hs⟩ => hcolon hs.colon_mem
    obtain ⟨-, hdt, -⟩ := mem_claims_of_get? h hk
    have hd : d.segments = rs := by rw [Claim.segments, hdt, hpath, hsegments]
    show c.literals ≤ d.literals
    rw [Claim.literals, Claim.literals, hd]
    exact Path.Fills.literals_le hrs
  | none =>
    obtain ⟨hct, -⟩ := (mem_claims_iff h).1 hc
    obtain ⟨params, hparams⟩ : ∃ params, c.captures? (Path.ofSegments rs) = some params := by
      rw [Claim.captures?, hct, hsegments]
      exact Claim.exists_capture_iff.2 (hrs.imp fun _ _ => Path.Fills.covers)
    refine h.exists_lookup (x := ⟨c, params⟩) hk ⟨hc, fun _ => ?_, ?_⟩
    · rw [hcm, hm]
    · rw [hnorm]
      exact hparams

end Registry.Coherent

/-- Every claim is what the request for its own method and path resolves to. An HTTP claim is met by
every request with values in the place of its parameters: there is an answer, and it has no fewer
literals than the claim, that is, segments that are no name in braces. -/
theorem claims_serve {config : Config} {r : Registry} (hr : Reachable config r) {t : Transport}
    {c : Claim} (hc : c ∈ r.claims t) :
    (∃ params, c.captures? c.path = some params ∧
      r.lookup c.transport (c.method.getD "") c.path = some ⟨c, params⟩) ∧
    (c.transport = .http → c.path = Path.ofSegments c.segments ∧
      ∀ rs, List.Forall₂ Path.Fills c.segments rs →
        ∃ m, r.lookup .http (c.method.getD "") (Path.ofSegments rs) = some m ∧
          c.literals ≤ m.claim.literals) ∧
    ∀ d : Claim, d.literals = d.segments.countP fun s => ¬ Path.IsParam s := by
  have h := hr.coherent
  obtain ⟨rfl, -⟩ := (Registry.mem_claims_iff h).1 hc
  refine ⟨?_, ?_, Claim.literals_eq_countP⟩
  · obtain ⟨params, hp⟩ := c.exists_captures_path
    have hnorm := h.normalize_path hc
    have hk := h.get?_own_address hc
    rw [← hnorm] at hk
    refine ⟨params, hp, ?_⟩
    rw [Registry.lookup_of_key hk, hnorm, hp]
    rfl
  · intro hhttp
    rw [hhttp] at hc
    exact ⟨h.path_eq_ofSegments hc (by decide), fun rs hrs => h.lookup_of_fills hc hrs⟩

/-- The route of the items of `flashModule`. -/
def flashItem : Claim := .http "GET" "/news/:id" "flash" "get"

/-- The route is found by its own path, and where its parameter is `latest` another claim is found
that has more literals. -/
theorem flashItem_serves :
    Reachable {} flashRegistry ∧ flashItem ∈ flashRegistry.claims .http ∧
    (∃ params, flashRegistry.lookup .http "GET" "/news/{id}" = some ⟨flashItem, params⟩) ∧
    List.Forall₂ Path.Fills flashItem.segments ["news", "latest"] ∧
    ∃ m, flashRegistry.lookup .http "GET" "/news/latest" = some m ∧
      flashItem.literals ≤ m.claim.literals ∧ m.claim ≠ flashItem ∧
      1 ≤ m.claim.segments.countP fun s => ¬ Path.IsParam s := by
  have hr : Reachable {} flashRegistry := .run (.start rfl) _
  have hc : flashItem ∈ flashRegistry.claims .http := by decide +kernel
  have hsegments : flashItem.segments = ["news", "{id}"] := by decide
  have hfills : List.Forall₂ Path.Fills flashItem.segments ["news", "latest"] := by
    rw [hsegments]
    refine .cons (.literal (by decide)) (.cons (.value (by decide) ?_) .nil)
    exact ⟨by decide, by decide, by decide, by decide, by decide⟩
  obtain ⟨⟨params, -, hown⟩, hfilled, hliterals⟩ := claims_serve hr hc
  obtain ⟨m, hm, hle⟩ := (hfilled rfl).2 _ hfills
  have hother : (flashRegistry.lookup .http "GET" "/news/latest").map (·.claim) ≠
      some flashItem := by decide +kernel
  have hone : flashItem.literals = 1 := by decide
  refine ⟨hr, hc, ⟨params, hown⟩, hfills, m, hm, hle, fun he => hother ?_, ?_⟩
  · rw [← he]
    exact congrArg (Option.map (·.claim)) hm
  · rw [← hliterals, ← hone]
    exact hle

end Registrar
