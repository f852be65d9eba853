import Registrar.Proofs.Addresses
import Registrar.Proofs.Requests

/-!
# Names of parameters

What a claim captures from a request is kept by the names of the parameters. `Claim.Lossless c` says
that it can be put back: with the captured values in the place of its parameters, the segments of
`c` are those of the request. That is so exactly if no two parameters of `c` have one name
(`Claim.lossless_iff`), as of two values under one name only the later one is kept. Whether the HTTP
claims of a module are of this kind depends on the names in its base path, to which the routes of
items add `id`, and on those in its endpoints (`captures_kept_iff`).
-/

namespace Registrar

open Text

/-! ## Putting captured values back -/

namespace Path

/-- The names of the parameters of a path, from left to right. -/
def parameters (path : String) : List String := (partsOf path).filterMap paramName

/-- A segment with the value of its parameter in its place, if it is one. -/
def fill (params : Dict String) (s : String) : String := ((paramName s).bind params.get?).getD s

theorem fill_of_param {params : Dict String} {s name v : String} (hs : paramName s = some name)
    (hv : params.get? name = some v) : fill params s = v := by
  rw [fill, hs, Option.bind_some, hv, Option.getD_some]

theorem fill_of_literal {s : String} (hs : paramName s = none) (params : Dict String) :
    fill params s = s := by
  rw [fill, hs]
  rfl

end Path

namespace Claim

/-- The names of the parameters of a claim, from left to right. -/
def parameters (c : Claim) : List String := c.segments.filterMap Path.paramName

/-- The segments of a claim with values in the place of its parameters. -/
def filled (c : Claim) (params : Dict String) : List String := c.segments.map (Path.fill params)

/-- What the claim captures from a request can be put back: it gives the segments of the request. -/
def Lossless (c : Claim) : Prop :=
  ∀ path params, c.captures? (Path.normalize path) = some params →
    c.filled params = c.transport.segments (Path.normalize path)

/-! ## What is kept under a name -/

section
variable {ss rs : List String} {found params : Dict String} {name : String}

theorem capture_nil (h : capture [] rs found = some params) : rs = [] ∧ params = found := by
  cases rs with
  | nil => exact ⟨rfl, (Option.some.inj h).symm⟩
  | cons r rs => cases h

/-- The first segment of a claim takes the first of the request: it captures it or is the same. -/
theorem capture_cons {s : String} (h : capture (s :: ss) rs found = some params) :
    ∃ r rs', rs = r :: rs' ∧
      ((∃ name, Path.paramName s = some name ∧
          capture ss rs' (found.insert name r) = some params) ∨
        (Path.paramName s = none ∧ s = r ∧ capture ss rs' found = some params)) := by
  cases rs with
  | nil => cases h
  | cons r rs =>
    refine ⟨r, rs, rfl, ?_⟩
    cases hs : Path.paramName s with
    | some name =>
      simp only [capture, hs] at h
      exact .inl ⟨name, rfl, h⟩
    | none =>
      simp only [capture, hs, Option.ite_none_right_eq_some] at h
      exact .inr ⟨rfl, h⟩

/-- Under a name that is no parameter stands what stood there before. -/
theorem get?_of_capture_of_notMem (h : capture ss rs found = some params)
    (hn : name ∉ ss.filterMap Path.paramName) : params.get? name = found.get? name := by
  induction ss generalizing rs found with
  | nil => rw [(capture_nil h).2]
  | cons s ss ih =>
    obtain ⟨r, rs, rfl, ⟨name', hs, hrest⟩ | ⟨hs, -, hrest⟩⟩ := capture_cons h
    · rw [List.filterMap_cons_some hs, List.mem_cons, not_or] at hn
      rw [ih hrest hn.2, Dict.get?_insert, if_neg hn.1]
    · rw [List.filterMap_cons_none hs] at hn
      exact ih hrest hn

/-- Where parameters have names of their own, the values of all of them are kept. -/
theorem map_fill_of_capture (h : capture ss rs found = some params)
    (hn : (ss.filterMap Path.paramName).Nodup) : ss.map (Path.fill params) = rs := by
  induction ss generalizing rs found with
  | nil => rw [(capture_nil h).1, List.map_nil]
  | cons s ss ih =>
    obtain ⟨r, rs, rfl, ⟨name', hs, hrest⟩ | ⟨hs, rfl, hrest⟩⟩ := capture_cons h
    · rw [List.filterMap_cons_some hs, List.nodup_cons] at hn
      have hget := get?_of_capture_of_notMem hrest hn.1
      rw [Dict.get?_insert, if_pos rfl] at hget
      rw [List.map_cons, Path.fill_of_param hs hget, ih hrest hn.2]
    · rw [List.filterMap_cons_none hs] at hn
      rw [List.map_cons, Path.fill_of_literal hs, ih hrest hn]

/-- Where all parameters of a name capture one value, it stands under the name. -/
theorem get?_of_capture_of_mem {v : String} (h : capture ss rs found = some params)
    (hv : List.Forall₂ (fun s r => Path.paramName s = some name → r = v) ss rs)
    (hn : name ∈ ss.filterMap Path.paramName) : params.get? name = some v := by
  induction hv generalizing found with
  | nil => cases hn
  | @cons s r ss rs hsr _ ih =>
    obtain ⟨_, _, hrs, hstep⟩ := capture_cons h
    cases hrs
    rcases hstep with ⟨name', hs, hrest⟩ | ⟨hs, -, hrest⟩
    · by_cases hmem : name ∈ ss.filterMap Path.paramName
      · exact ih hrest hmem
      · -- the last parameter of the name
        rw [List.filterMap_cons_some hs, List.mem_cons] at hn
        have hname := hn.resolve_right hmem
        subst hname
        rw [get?_of_capture_of_notMem hrest hmem, Dict.get?_insert, if_pos rfl, hsr hs]
    · rw [List.filterMap_cons_none hs] at hn
      exact ih hrest hn

/-- A match goes on behind a part of the segments with what was captured there. -/
theorem exists_capture_suffix {as bs : List String} (hlen : as.length = bs.length)
    (h : capture (as ++ ss) (bs ++ rs) found = some params) :
    ∃ found', capture ss rs found' = some params := by
  induction as generalizing bs found with
  | nil =>
    rw [List.length_nil, eq_comm, List.length_eq_zero_iff] at hlen
    rw [hlen] at h
    exact ⟨found, h⟩
  | cons a as ih =>
    cases bs with
    | nil => cases hlen
    | cons b bs =>
      obtain ⟨_, _, hrs, hstep⟩ := capture_cons h
      cases hrs
      rcases hstep with ⟨_, -, hrest⟩ | ⟨-, -, hrest⟩
      · exact ih (Nat.succ.inj hlen) hrest
      · exact ih (Nat.succ.inj hlen) hrest

end

/-! ## Names that are repeated -/

theorem exists_repeated {α β : Type} {f : α → Option β} {l : List α} (h : ¬ (l.filterMap f).Nodup) :
    ∃ as a bs b, l = as ++ a :: bs ∧ f a = some b ∧ b ∈ bs.filterMap f := by
  induction l with
  | nil => exact absurd List.nodup_nil h
  | cons a l ih =>
    by_cases hl : (l.filterMap f).Nodup
    · cases ha : f a with
      | none =>
        rw [List.filterMap_cons_none ha] at h
        exact absurd hl h
      | some b =>
        rw [List.filterMap_cons_some ha, List.nodup_cons] at h
        exact ⟨[], a, l, b, rfl, ha, by_contra fun hb => h ⟨hb, hl⟩⟩
    · obtain ⟨as, a', bs, b, rfl, ha, hb⟩ := ih hl
      exact ⟨a :: as, a', bs, b, rfl, ha, hb⟩

/-- A value for a parameter, and a literal as it is. -/
def valued (v s : String) : String := if (Path.paramName s).isSome then v else s

theorem fills_valued {v : String} (hv : Path.IsValue v) (s : String) :
    Path.Fills s (valued v s) := by
  unfold valued
  split
  · rename_i hs
    exact .value hs hv
  · rename_i hs
    exact .literal (by simpa using hs)

theorem forall₂_map_valued {v : String} (hv : Path.IsValue v) (ss : List String) :
    List.Forall₂ Path.Fills ss (ss.map (valued v)) :=
  List.forall₂_map_right_iff.2 (List.forall₂_same.2 fun s _ => fills_valued hv s)

/-- Of two values under one name the later one is kept. -/
theorem get?_of_capture_valued {as bs : List String} {s name v w : String} {params : Dict String}
    (h : capture (as ++ s :: bs) (as.map (valued w) ++ v :: bs.map (valued w)) ∅ = some params)
    (hs : Path.paramName s = some name) (hn : name ∈ bs.filterMap Path.paramName) :
    params.get? name = some w := by
  obtain ⟨found, hrest⟩ := exists_capture_suffix (List.length_map _).symm h
  simp only [capture, hs] at hrest
  refine get?_of_capture_of_mem hrest ?_ hn
  refine List.forall₂_map_right_iff.2 (List.forall₂_same.2 fun t _ ht => ?_)
  rw [valued, ht]
  rfl

/-- The first of two values under one name cannot be put back. -/
theorem map_fill_ne_of_repeated {as bs : List String} {s name v w : String} {params : Dict String}
    (h : capture (as ++ s :: bs) (as.map (valued w) ++ v :: bs.map (valued w)) ∅ = some params)
    (hs : Path.paramName s = some name) (hn : name ∈ bs.filterMap Path.paramName) (hne : w ≠ v) :
    (as ++ s :: bs).map (Path.fill params) ≠ as.map (valued w) ++ v :: bs.map (valued w) := by
  intro hfilled
  rw [List.map_append, List.map_cons,
    Path.fill_of_param hs (get?_of_capture_valued h hs hn)] at hfilled
  have htail := (List.append_inj hfilled (by simp)).2
  exact hne (List.cons.inj htail).1

/-- The captured values can be put back exactly if the parameters have names of their own. -/
theorem lossless_iff {c : Claim} (ht : c.transport ≠ .cli)
    (hcan : ∀ s ∈ c.segments, Path.IsCanonical s.toList) : c.Lossless ↔ c.parameters.Nodup := by
  refine ⟨fun h => ?_, fun hn path params hc => map_fill_of_capture hc hn⟩
  by_contra hn
  obtain ⟨as, s, bs, name, hsegments, hs, hmem⟩ := exists_repeated hn
  -- a request with one value for the first parameter of the name and another for all others
  have hx : Path.IsValue "x" := ⟨by decide, by decide, by decide, by decide, by decide⟩
  have hy : Path.IsValue "y" := ⟨by decide, by decide, by decide, by decide, by decide⟩
  have hparam : (Path.paramName s).isSome := by
    rw [hs]
    rfl
  have hfills : List.Forall₂ Path.Fills c.segments
      (as.map (valued "y") ++ "x" :: bs.map (valued "y")) := by
    rw [hsegments]
    exact List.rel_append (forall₂_map_valued hy as)
      (.cons (.value hparam hx) (forall₂_map_valued hy bs))
  obtain ⟨params, hparams⟩ : ∃ params, capture c.segments
      (as.map (valued "y") ++ "x" :: bs.map (valued "y")) ∅ = some params :=
    exists_capture_iff.2 (hfills.imp fun _ _ => Path.Fills.covers)
  have hrcan := Path.Fills.isCanonical hfills hcan
  have hfilled := h (Path.ofSegments (as.map (valued "y") ++ "x" :: bs.map (valued "y"))) params
  rw [Path.normalize_ofSegments hrcan, captures?, Path.segments_ofSegments ht hrcan] at hfilled
  have hback := hfilled hparams
  rw [filled, hsegments] at hback
  rw [hsegments] at hparams
  exact map_fill_ne_of_repeated hparams hs hmem (by decide) hback

end Claim

/-! ## Parameters of derived claims -/

namespace Path

theorem paramName_of_isIdentifier {s : String} (h : Naming.isIdentifier s = true) :
    paramName s = none := by
  rw [Option.eq_none_iff_forall_ne_some]
  intro name hs
  have hbrace : Naming.isIdentRest '\x7b' = false := by decide
  have hhead := (isPlain_of_isIdentifier h).head?_ne hbrace
  rw [toList_of_paramName hs] at hhead
  exact hhead (List.head?_cons ..)

theorem parameters_join (base suffix : String) :
    parameters (join base suffix) = parameters base ++ parameters suffix := by
  rw [parameters, partsOf_join, List.filterMap_append, parameters, parameters]

theorem parameters_of_isIdentifier {s : String} (h : Naming.isIdentifier s = true) :
    parameters s = [] := by
  rw [parameters, partsOf_of_isIdentifier h,
    List.filterMap_cons_none (paramName_of_isIdentifier h), List.filterMap_nil]

end Path

theorem Claim.parameters_http {method path module action : String} (h : isAbsolute path = true) :
    (Claim.http method path module action).parameters = Path.parameters path := by
  have hsegments : (Claim.http method path module action).segments =
      (Path.segmentsOf (trimmed path.toList)).map String.ofList :=
    Path.segments_normalize (t := .http) (by decide) h
  rw [parameters, hsegments, Path.segmentsOf_trimmed, Path.parameters, Path.partsOf]

namespace Module

/-- No two parameters of one name are declared for a route: in the base path the names are distinct
and none of them is `id`, which the routes of items add, unless these are replaced; and in the path
of each endpoint they are distinct. -/
structure DistinctParameters (m : Module) (mode : EndpointMode) (plural : String) : Prop where
  implicit : m.replacesImplicit mode = false →
    (Path.parameters (m.httpBase plural)).Nodup ∧ "id" ∉ Path.parameters (m.httpBase plural)
  explicit : ∀ e ∈ m.channels.http.endpoints, (Path.parameters e.path).Nodup

/-- The routes of items have the parameters of the base path and `id`. -/
theorem parameters_item (m : Module) (plural : String) :
    Path.parameters (Path.join (m.httpBase plural) "\x7bid\x7d") =
      Path.parameters (m.httpBase plural) ++ ["id"] := by
  have hid : Path.parameters "\x7bid\x7d" = ["id"] := by decide
  rw [Path.parameters_join, hid]

section
variable {m : Module} (hv : m.report? = none) {mode : EndpointMode} {plural : String}
include hv

theorem implicit_parameters {c : Claim} (h : c ∈ m.implicitRoutes plural) :
    c.parameters = Path.parameters (m.httpBase plural) ∨
      c.parameters = Path.parameters (m.httpBase plural) ++ ["id"] := by
  have hbase := head?_httpBase hv plural
  have hitem := Path.head?_join hbase "\x7bid\x7d"
  rcases List.mem_append.1 h with h | h
  · simp only [List.mem_cons, List.not_mem_nil, or_false] at h
    rcases h with rfl | rfl | rfl | rfl | rfl
    · exact .inl (Claim.parameters_http (Path.isAbsolute_of_head hbase))
    · exact .inl (Claim.parameters_http (Path.isAbsolute_of_head hbase))
    all_goals
      exact .inr ((Claim.parameters_http (Path.isAbsolute_of_head hitem)).trans
        (m.parameters_item plural))
  · obtain ⟨action, ha, rfl⟩ := List.mem_map.1 h
    have hname := mem_actionNames_iff.2 (hasAction_of_mem_keys ha)
    have hnone := Path.parameters_of_isIdentifier (isIdentifier_of_mem_actionNames hv hname)
    right
    rw [Claim.parameters_http (Path.isAbsolute_of_head (Path.head?_join hitem action)),
      Path.parameters_join, parameters_item, hnone, List.append_nil]

theorem implicit_parameters_nodup_iff :
    (∀ c ∈ m.implicitRoutes plural, c.parameters.Nodup) ↔
      (Path.parameters (m.httpBase plural)).Nodup ∧
        "id" ∉ Path.parameters (m.httpBase plural) := by
  have hnodup : (Path.parameters (m.httpBase plural) ++ ["id"]).Nodup ↔
      (Path.parameters (m.httpBase plural)).Nodup ∧
        "id" ∉ Path.parameters (m.httpBase plural) := by
    rw [← List.concat_eq_append, List.nodup_concat, and_comm]
  rw [← hnodup]
  constructor
  · intro h
    have hitem := Path.head?_join (head?_httpBase hv plural) "\x7bid\x7d"
    have hget := h (.http "GET" (Path.join (m.httpBase plural) "\x7bid\x7d") m.name "get")
      (by simp [implicitRoutes])
    rwa [Claim.parameters_http (Path.isAbsolute_of_head hitem), parameters_item] at hget
  · intro h c hc
    rcases implicit_parameters hv hc with hp | hp
    · rw [hp]
      exact (List.nodup_append.1 h).1
    · rw [hp]
      exact h

theorem explicit_parameters_nodup_iff :
    (∀ c ∈ m.explicitRoutes, c.parameters.Nodup) ↔
      ∀ e ∈ m.channels.http.endpoints, (Path.parameters e.path).Nodup := by
  rw [explicitRoutes, List.forall_mem_map]
  refine forall₂_congr fun e he => ?_
  rw [Claim.parameters_http (endpoint_sound hv he).2.1]

theorem http_parameters_nodup_iff :
    (∀ c ∈ m.httpClaims mode plural, c.parameters.Nodup) ↔ m.DistinctParameters mode plural := by
  rw [httpClaims, List.forall_mem_append, explicit_parameters_nodup_iff hv]
  cases hr : m.replacesImplicit mode with
  | true =>
    simp only [if_true, List.not_mem_nil, false_imp_iff, implies_true, true_and]
    exact ⟨fun h => ⟨fun hn => absurd (hr.symm.trans hn) (by decide), h⟩, fun h => h.explicit⟩
  | false =>
    simp only [Bool.false_eq_true, if_false, implicit_parameters_nodup_iff hv]
    exact ⟨fun h => ⟨fun _ => h.1, h.2⟩, fun h => ⟨h.implicit hr, h.explicit⟩⟩

end

end Module

/-- What an HTTP claim of a valid module captures from a request can be put back exactly if its
parameters have names of their own; and that is so of all its HTTP claims exactly if no name is
declared twice for a route. -/
theorem captures_kept_iff {m : Module} (hv : m.report? = none) (mode : EndpointMode)
    (plural : String) :
    (∀ c ∈ m.claims mode plural, c.transport = .http → (c.Lossless ↔ c.parameters.Nodup)) ∧
    ((∀ c ∈ m.claims mode plural, c.transport = .http → c.Lossless) ↔
      (m.channels.http.enabled = true → m.DistinctParameters mode plural)) := by
  have hiff : ∀ c ∈ m.claims mode plural, c.transport = .http →
      (c.Lossless ↔ c.parameters.Nodup) := by
    intro c hc ht
    have hne : c.transport ≠ .cli := by rw [ht]; decide
    exact Claim.lossless_iff hne fun s hs => Module.isCanonical_of_mem_segments hv hc hne hs
  refine ⟨hiff, ?_⟩
  have hon : ∀ c, c ∈ m.claims mode plural ∧ c.transport = .http ↔
      m.channels.http.enabled = true ∧ c ∈ m.httpClaims mode plural := by
    intro c
    rw [← Module.mem_claimsOn_iff, Module.claimsOn, List.mem_ite_nil_right]
  rw [← Module.http_parameters_nodup_iff hv]
  constructor
  · intro h hh c hc
    obtain ⟨hc, ht⟩ := (hon c).2 ⟨hh, hc⟩
    exact (hiff c hc ht).1 (h c hc ht)
  · intro h c hc ht
    obtain ⟨hh, hc'⟩ := (hon c).1 ⟨hc, ht⟩
    exact (hiff c hc ht).2 (h hh c hc')

/-- A module with its collection below a base path, and an endpoint on it. -/
def memberModule (base : String) : Module where
  name := "member"
  schema := .ofList [("title", { type := "string" })]
  channels :=
    { http := { enabled := true, basePath := some base,
                endpoints := [⟨"PUT", base ++ "/by/<int:rank>", "update"⟩] } }

/-- A base path with a parameter of another name than that of the items. -/
theorem org_and_id_kept :
    (memberModule "/orgs/:org").report? = none ∧
    .http "GET" "/orgs/:org/:id" "member" "get" ∈
      (memberModule "/orgs/:org").claims .additive "members" ∧
    (Claim.http "GET" "/orgs/:org/:id" "member" "get").Lossless := by
  have hv : (memberModule "/orgs/:org").report? = none := by decide +kernel
  have hc : .http "GET" "/orgs/:org/:id" "member" "get" ∈
      (memberModule "/orgs/:org").claims .additive "members" := by decide +kernel
  have hd : (memberModule "/orgs/:org").DistinctParameters .additive "members" :=
    ⟨fun _ => by decide +kernel, by decide +kernel⟩
  exact ⟨hv, hc, (captures_kept_iff hv .additive "members").2.2 (fun _ => hd) _ hc rfl⟩

/-- A base path with a parameter of the name of the items: of two values the first is lost. -/
theorem first_id_lost :
    (memberModule "/orgs/:id").report? = none ∧
    .http "GET" "/orgs/:id/:id" "member" "get" ∈
      (memberModule "/orgs/:id").claims .additive "members" ∧
    (Claim.http "GET" "/orgs/:id/:id" "member" "get").parameters = ["id", "id"] ∧
    ∃ params, (Claim.http "GET" "/orgs/:id/:id" "member" "get").captures?
        (Path.normalize "/orgs/7/9") = some params ∧
      (Claim.http "GET" "/orgs/:id/:id" "member" "get").filled params = ["orgs", "9", "9"] ∧
      Transport.http.segments (Path.normalize "/orgs/7/9") = ["orgs", "7", "9"] := by
  refine ⟨by decide +kernel, by decide +kernel, by decide +kernel, .insert ∅ "id" "9", ?_⟩
  exact ⟨by decide +kernel, by decide +kernel, by decide +kernel⟩

end Registrar
