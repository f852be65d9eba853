import Registrar.Proofs.MethodPaths
import Registrar.Proofs.Symmetry

/-!
# The addresses of a module

The claims that a valid module makes are well made (`Module.claim_wellMade`): in normal form, with a
method exactly over HTTP, for the module and for actions that it has.

Where it declares no explicit endpoints they also have keys of their own, but for one case. Claims
of different transports have different keys (`Module.claims_eq_flatMap` lists the claims by
transport). The implicit routes differ in their methods or their segments (`Module.implicit_spots`).
Commands end with the names of their actions, which differ. gRPC alone does not keep actions apart,
as two names may have one compound form, such as `ban` and `_ban`. `own_collision_iff` says that the
keys are distinct, and that no registration fails for conflicts of the module with itself, exactly
if this is not so.
-/

namespace Registrar

open Text

/-! ## Keys of dictionaries -/

namespace Dict

variable {α : Type} {d : Dict α}

theorem contains_iff_mem_keys {k : String} : d.contains k = true ↔ k ∈ d.keys := by
  simp only [contains, Option.isSome_iff_exists, get?_eq_some_iff, keys, List.mem_map]
  constructor
  · rintro ⟨x, hx⟩
    exact ⟨(k, x), hx, rfl⟩
  · rintro ⟨e, he, rfl⟩
    exact ⟨e.2, he⟩

theorem nodup_keys : d.keys.Nodup :=
  List.pairwise_map.2 (d.sorted.imp fun h => String.ne_of_lt h)

end Dict

/-! ## Claims that are well made -/

/-- What holds of each claim that a valid module makes. -/
structure Claim.WellMade (m : Module) (c : Claim) : Prop where
  path : Path.normalize c.path = c.path
  rooted : c.transport ≠ .cli → c.path.toList.head? = some '/'
  method : c.method.isSome = true ↔ c.transport = .http
  known : ∀ k ∈ c.method, k ∈ httpMethods
  module : c.module = m.name
  action : c.transport = .http ∨ c.transport = .cli ∨ c.transport = .grpc →
    m.hasAction c.action = true

namespace Module

/-! ## Actions of claims -/

section
variable {m : Module}

theorem mem_actionNames_iff {action : String} :
    action ∈ m.actionNames ↔ m.hasAction action = true := by
  simp only [actionNames, hasAction, List.mem_append, List.mem_filter, Bool.or_eq_true,
    List.contains_iff_mem, Dict.contains_iff_mem_keys, Bool.not_eq_true', Bool.eq_false_iff, ne_eq]
  tauto

theorem nodup_actionNames : m.actionNames.Nodup := by
  refine List.nodup_append.2 ⟨by decide, Dict.nodup_keys.filter _, ?_⟩
  rintro a ha b hb rfl
  have hnot := (List.mem_filter.1 hb).2
  rw [List.contains_iff_mem.2 ha] at hnot
  cases hnot

theorem hasAction_of_mem_keys {action : String} (h : action ∈ m.actions.keys) :
    m.hasAction action = true := by
  rw [hasAction, Dict.contains_iff_mem_keys.2 h, Bool.or_true]

theorem hasAction_of_mem_implicitRoutes {plural : String} {c : Claim}
    (h : c ∈ m.implicitRoutes plural) : m.hasAction c.action = true := by
  rcases List.mem_append.1 h with h | h
  · simp only [List.mem_cons, List.not_mem_nil, or_false] at h
    rcases h with rfl | rfl | rfl | rfl | rfl <;> rfl
  · obtain ⟨action, ha, rfl⟩ := List.mem_map.1 h
    exact hasAction_of_mem_keys ha

variable (hv : m.report? = none)
include hv

theorem hasAction_of_mem_httpClaims {mode : EndpointMode} {plural : String} {c : Claim}
    (h : c ∈ m.httpClaims mode plural) : m.hasAction c.action = true := by
  rcases List.mem_append.1 h with h | h
  · split at h
    · cases h
    · exact hasAction_of_mem_implicitRoutes h
  · obtain ⟨e, he, rfl⟩ := List.mem_map.1 h
    exact (endpoint_sound hv he).2.2

theorem claim_action {mode : EndpointMode} {plural : String} {c : Claim}
    (h : c ∈ m.claims mode plural)
    (ht : c.transport = .http ∨ c.transport = .cli ∨ c.transport = .grpc) :
    m.hasAction c.action = true := by
  rcases mem_claims_iff.1 h with ⟨-, h⟩ | ⟨-, h⟩ | ⟨-, rfl⟩ | ⟨-, rfl⟩ | ⟨-, h⟩
  · exact hasAction_of_mem_httpClaims hv h
  · obtain ⟨action, ha, rfl⟩ := List.mem_map.1 h
    exact mem_actionNames_iff.1 ha
  · rcases ht with ht | ht | ht <;> cases ht
  · rcases ht with ht | ht | ht <;> cases ht
  · obtain ⟨action, ha, rfl⟩ := List.mem_map.1 h
    exact mem_actionNames_iff.1 ha

/-- The claims of a valid module are well made, whatever the mode of endpoints and the plural. -/
theorem claim_wellMade {mode : EndpointMode} {plural : String} {c : Claim}
    (h : c ∈ m.claims mode plural) : c.WellMade m where
  path := normalize_claim_path hv h
  rooted := by
    intro ht
    obtain ⟨path, habs, hpath⟩ := claim_path hv h ht
    rw [hpath]
    exact Path.head?_normalize habs
  method := by
    constructor
    · intro hs
      by_contra ht
      rw [claim_method_eq_none h ht] at hs
      cases hs
    · intro ht
      obtain ⟨k, -, hk⟩ := claim_method hv h ht
      rw [hk]
      rfl
  known := by
    intro k hk
    by_cases ht : c.transport = .http
    · obtain ⟨l, hl, hcl⟩ := claim_method hv h ht
      rw [hcl] at hk
      exact Option.some.inj hk ▸ hl
    · rw [claim_method_eq_none h ht] at hk
      cases hk
  module := claim_module h
  action := claim_action hv h

end

end Module

/-- A module with blanks, slashes and parameters in what its addresses are made of. -/
def deskModule : Module where
  name := "ticket"
  schema := .ofList [("title", { type := "string" })]
  actions := .ofList [("escalate", {})]
  channels :=
    { http := { enabled := true, basePath := some " /v1//<int:desk>/ " },
      cli := { enabled := true, command := some "ops//:desk " },
      grpc := { enabled := true, package := some "ops/v1" } }

/-- A command with a slash and a parameter, into which the name of the action is drawn. -/
def deskClaim : Claim :=
  { transport := .cli, path := "ops/\x7bdesk escalate\x7d", module := "ticket",
    action := "escalate" }

/-- It is well made all the same. -/
theorem desk_wellMade : deskModule.report? = none ∧
    deskClaim ∈ deskModule.claims .replaceImplicit "tickets" ∧ deskClaim.WellMade deskModule := by
  have hv : deskModule.report? = none := by decide +kernel
  have h : deskClaim ∈ deskModule.claims .replaceImplicit "tickets" := by decide +kernel
  exact ⟨hv, h, Module.claim_wellMade hv h⟩

/-! ## Claims by transport -/

namespace Module

/-- The claims on one transport. -/
def claimsOn (m : Module) (mode : EndpointMode) (plural : String) : Transport → List Claim
  | .http => if m.channels.http.enabled then m.httpClaims mode plural else []
  | .cli => if m.channels.cli.enabled then m.cliClaims plural else []
  | .ws => if m.channels.websocket.enabled then [m.socketClaim plural] else []
  | .webhook => if m.channels.webhook.enabled then [m.webhookClaim] else []
  | .grpc => if m.channels.grpc.enabled then m.grpcClaims else []

section
variable {m : Module} {mode : EndpointMode} {plural : String}

theorem claims_eq_flatMap :
    m.claims mode plural = Transport.all.flatMap (m.claimsOn mode plural) := by
  simp only [claims, Transport.all, List.flatMap_cons, List.flatMap_nil, List.append_nil,
    List.append_assoc, claimsOn]

theorem transport_of_mem_claimsOn {t : Transport} {c : Claim} (h : c ∈ m.claimsOn mode plural t) :
    c.transport = t := by
  cases t with
  | http =>
    obtain ⟨method, path, action, rfl, -⟩ := mem_httpClaims (List.mem_ite_nil_right.1 h).2
    rfl
  | cli | grpc =>
    obtain ⟨action, -, rfl⟩ := List.mem_map.1 (List.mem_ite_nil_right.1 h).2
    rfl
  | ws | webhook =>
    rw [List.mem_singleton.1 (List.mem_ite_nil_right.1 h).2]
    rfl

theorem mem_claimsOn_iff {t : Transport} {c : Claim} :
    c ∈ m.claimsOn mode plural t ↔ c ∈ m.claims mode plural ∧ c.transport = t := by
  rw [claims_eq_flatMap, List.mem_flatMap]
  constructor
  · intro h
    have hall : t ∈ Transport.all := by cases t <;> decide
    exact ⟨⟨t, hall, h⟩, transport_of_mem_claimsOn h⟩
  · rintro ⟨⟨u, -, h⟩, rfl⟩
    rwa [transport_of_mem_claimsOn h]

theorem nodup_keys_ite {b : Bool} {cs : List Claim}
    (h : b = true → (cs.map (·.key)).Nodup) : ((if b then cs else []).map (·.key)).Nodup := by
  cases b with
  | true => exact h rfl
  | false => exact .nil

/-- Keys can coincide only within a transport. -/
theorem nodup_keys_iff : ((m.claims mode plural).map (·.key)).Nodup ↔
    ∀ t, ((m.claimsOn mode plural t).map (·.key)).Nodup := by
  have hall : ∀ t, t ∈ Transport.all := by
    intro t
    cases t <;> decide
  have hnodup : Transport.all.Nodup := by decide
  rw [claims_eq_flatMap, List.map_flatMap, List.nodup_flatMap]
  constructor
  · exact fun h t => h.1 t (hall t)
  · refine fun h => ⟨fun t _ => h t, hnodup.imp fun {t u} htu => ?_⟩
    intro k hk hk'
    obtain ⟨c, hc, rfl⟩ := List.mem_map.1 hk
    obtain ⟨d, hd, hkey⟩ := List.mem_map.1 hk'
    have ht := Claim.transport_eq_of_key_eq hkey
    rw [transport_of_mem_claimsOn hc, transport_of_mem_claimsOn hd] at ht
    exact htu ht.symm

end

end Module

/-! ## Implicit routes -/

/-- What tells HTTP claims apart. -/
def Claim.spot (c : Claim) : Option String × List String := (c.method, c.segments)

theorem Claim.spot_http {method path module action : String} (h : isAbsolute path = true) :
    (Claim.http method path module action).spot =
      (some (toUpper (trim method)), (Path.segmentsOf path.toList).map String.ofList) := by
  have hsegments := Path.segments_normalize (t := .http) nofun h
  rw [Path.segmentsOf_trimmed] at hsegments
  rw [← hsegments]
  rfl

namespace Module

section
variable {m : Module} (hv : m.report? = none)
include hv

/-- The implicit routes have the segments of the base, of an item and of an action of an item. -/
theorem implicit_spots (plural : String) :
    ∃ base : List String, (m.implicitRoutes plural).map (·.spot) =
      [(some "GET", base), (some "POST", base), (some "GET", base ++ ["\x7bid\x7d"]),
        (some "PATCH", base ++ ["\x7bid\x7d"]), (some "DELETE", base ++ ["\x7bid\x7d"])] ++
      m.actions.keys.map fun action => (some "POST", base ++ ["\x7bid\x7d", action]) := by
  have hbase := head?_httpBase hv plural
  have hitem := Path.head?_join hbase "\x7bid\x7d"
  have habs := Path.isAbsolute_of_head hbase
  have habs' := Path.isAbsolute_of_head hitem
  have hid : (Path.segmentsOf "\x7bid\x7d".toList).map String.ofList = ["\x7bid\x7d"] := by decide
  have hget : toUpper (trim "GET") = "GET" := toUpper_trim_of_mem (by decide)
  have hpost : toUpper (trim "POST") = "POST" := toUpper_trim_of_mem (by decide)
  have hpatch : toUpper (trim "PATCH") = "PATCH" := toUpper_trim_of_mem (by decide)
  have hdelete : toUpper (trim "DELETE") = "DELETE" := toUpper_trim_of_mem (by decide)
  refine ⟨(Path.segmentsOf (m.httpBase plural).toList).map String.ofList, ?_⟩
  unfold implicitRoutes
  rw [List.map_append, List.map_map]
  refine congrArg₂ (· ++ ·) ?_ (List.map_congr_left fun action ha => ?_)
  · simp only [List.map_cons, List.map_nil, Claim.spot_http habs, Claim.spot_http habs',
      Path.segmentsOf_toList_join, List.map_append, hid, hget, hpost, hpatch, hdelete]
  · have hname := mem_actionNames_iff.2 (hasAction_of_mem_keys ha)
    have haction : Path.segmentsOf action.toList = [action.toList] :=
      (Path.isPlain_of_isIdentifier (isIdentifier_of_mem_actionNames hv hname)).segmentsOf
    have habs'' := Path.isAbsolute_of_head (Path.head?_join hitem action)
    simp only [Function.comp_apply, Claim.spot_http habs'', Path.segmentsOf_toList_join,
      List.map_append, hid, haction, hpost, List.append_assoc, List.map_singleton,
      String.ofList_toList, List.singleton_append]

theorem nodup_implicit_spots (plural : String) :
    ((m.implicitRoutes plural).map (·.spot)).Nodup := by
  obtain ⟨base, hspots⟩ := implicit_spots hv plural
  rw [hspots]
  refine List.nodup_append.2 ⟨by simp, Dict.nodup_keys.map fun a b h => by simpa using h, ?_⟩
  rintro x hx y hy rfl
  -- of the others only `create` is posted, and to the base
  obtain ⟨action, -, hx'⟩ := List.mem_map.1 hy
  rw [← hx'] at hx
  simp at hx

variable {mode : EndpointMode} {plural : String}

theorem nodup_http_keys (hh : m.channels.http.enabled = true)
    (he : m.channels.http.endpoints = []) :
    ((m.httpClaims mode plural).map (·.key)).Nodup := by
  have hroutes : m.httpClaims mode plural = m.implicitRoutes plural := by
    simp [httpClaims, replacesImplicit, explicitRoutes, he]
  have hmem : ∀ c ∈ m.implicitRoutes plural, c ∈ m.claims mode plural :=
    fun c hc => mem_claims_iff.2 (.inl ⟨hh, hroutes ▸ hc⟩)
  have hspots := nodup_implicit_spots hv plural
  rw [hroutes]
  refine List.Nodup.map_on (fun c hc d hd hk => ?_) (.of_map _ hspots)
  obtain ⟨ht, hm, hp⟩ := address_of_key_eq hv hv (hmem c hc) (hmem d hd) hk
  refine List.inj_on_of_nodup_map hspots hc hd ?_
  simp only [Claim.spot, Claim.segments, ht, hm, hp]

end

/-! ## Commands and methods -/

/-- Two actions of the module have one name as methods of its service. -/
def MethodsClash (m : Module) : Prop :=
  m.channels.grpc.enabled = true ∧
    ∃ a ∈ m.actionNames, ∃ b ∈ m.actionNames, a ≠ b ∧ Naming.toPascal a = Naming.toPascal b

/-- Claims without a method are told apart by their paths. -/
theorem nodup_plain_keys {t : Transport} (ht : t ≠ .http) {n : String} {names : List String}
    (hn : names.Nodup) {path : String → String}
    (hpath : ∀ a ∈ names, ∀ b ∈ names,
      Path.normalize (path a) = Path.normalize (path b) → a = b) :
    ((names.map fun a => Claim.plain t (path a) n a).map (·.key)).Nodup := by
  rw [List.map_map]
  exact hn.map_on fun a ha b hb hk => hpath a ha b hb (Transport.path_eq_of_key_eq ht hk)

theorem command_injective {command a b : String} (ha : Naming.isIdentifier a = true)
    (hb : Naming.isIdentifier b = true)
    (h : Path.normalize s!"{command} {a}" = Path.normalize s!"{command} {b}") : a = b := by
  have hlist : ∀ s : String, s!"{command} {s}".toList = command.toList ++ ' ' :: s.toList := by
    intro s
    show (command ++ " " ++ s).toList = _
    simp only [String.toList_append, List.append_assoc]
    rfl
  obtain ⟨pre, suf, hform⟩ := Path.exists_normalized_command command.toList
  have hnorm := String.ofList_injective h
  rw [hlist, hlist, hform _ (Path.isPlain_of_isIdentifier ha),
    hform _ (Path.isPlain_of_isIdentifier hb)] at hnorm
  exact String.toList_injective (List.append_cancel_left (List.append_cancel_right hnorm))

/-- Of a text of such characters nothing is lost. -/
theorem flatten_segmentsOf {w : List Char} (h : ∀ c ∈ w, Naming.isIdentRest c = true) :
    (Path.segmentsOf w).flatten = w := by
  by_cases he : w = []
  · rw [he, Path.segmentsOf_nil]
    rfl
  · rw [Path.IsPlain.segmentsOf ⟨he, h⟩, List.flatten_singleton]

/-- The path of a method tells compound forms apart. -/
theorem method_path_injective {q a b : String} (ha : ∀ c ∈ a.toList, Naming.isIdentRest c = true)
    (hb : ∀ c ∈ b.toList, Naming.isIdentRest c = true)
    (h : Path.normalize ("/" ++ q ++ "/" ++ a) = Path.normalize ("/" ++ q ++ "/" ++ b)) :
    a = b := by
  have hrooted := fun s => Path.toList_trim_head (absolute_method_path q s)
  have hsegments := congrArg Path.segmentsOf (String.ofList_injective h)
  rw [Path.segmentsOf_normalized (hrooted a), Path.segmentsOf_normalized (hrooted b),
    segmentsOf_method_path, segmentsOf_method_path, List.append_cancel_left_eq] at hsegments
  have hflat := congrArg List.flatten hsegments
  rw [flatten_segmentsOf ha, flatten_segmentsOf hb] at hflat
  exact String.toList_injective hflat

section
variable {m : Module} (hv : m.report? = none)
include hv

theorem nodup_cli_keys (plural : String) : ((m.cliClaims plural).map (·.key)).Nodup :=
  nodup_plain_keys (t := .cli) nofun nodup_actionNames fun _ ha _ hb =>
    command_injective (isIdentifier_of_mem_actionNames hv ha)
      (isIdentifier_of_mem_actionNames hv hb)

theorem nodup_grpc_keys (h : ¬ m.MethodsClash) (hg : m.channels.grpc.enabled = true) :
    (m.grpcClaims.map (·.key)).Nodup := by
  refine nodup_plain_keys (t := .grpc) nofun nodup_actionNames fun a ha b hb hpath => ?_
  have hrest : ∀ s ∈ m.actionNames, ∀ c ∈ (Naming.toPascal s).toList,
      Naming.isIdentRest c = true := fun s hs _ =>
    Naming.isIdentRest_of_mem_toPascal
      (Naming.isIdentifier_iff.1 (isIdentifier_of_mem_actionNames hv hs)).2
  have hpascal := method_path_injective (hrest a ha) (hrest b hb) hpath
  by_contra hne
  exact h ⟨hg, a, ha, b, hb, hne, hpascal⟩

end

/-- Where methods clash, two actions have one address. -/
theorem MethodsClash.exists_key_eq {m : Module} (h : m.MethodsClash) (mode : EndpointMode)
    (plural : String) : ∃ c ∈ m.claims mode plural, ∃ d ∈ m.claims mode plural,
      c.key = d.key ∧ c.action ≠ d.action := by
  obtain ⟨hg, a, ha, b, hb, hne, hpascal⟩ := h
  have hmem : ∀ s ∈ m.actionNames,
      Claim.plain .grpc s!"/{m.grpcService}/{Naming.toPascal s}" m.name s ∈ m.claims mode plural :=
    fun s hs => mem_claims_iff.2 (.inr (.inr (.inr (.inr ⟨hg, List.mem_map.2 ⟨s, hs, rfl⟩⟩))))
  refine ⟨_, hmem a ha, _, hmem b hb, ?_, hne⟩
  rw [Claim.plain, Claim.plain, hpascal]
  rfl

/-- The keys of a valid module without explicit endpoints are distinct unless methods clash. -/
theorem nodup_keys_iff_not_clash {m : Module} (hv : m.report? = none)
    (he : m.channels.http.endpoints = []) {mode : EndpointMode} {plural : String} :
    ((m.claims mode plural).map (·.key)).Nodup ↔ ¬ m.MethodsClash := by
  constructor
  · intro hnodup hclash
    obtain ⟨c, hc, d, hd, hk, hne⟩ := hclash.exists_key_eq mode plural
    exact hne (congrArg _ (List.inj_on_of_nodup_map hnodup hc hd hk))
  · intro hclash
    refine nodup_keys_iff.2 fun t => ?_
    cases t with
    | http => exact nodup_keys_ite fun hh => nodup_http_keys hv hh he
    | cli => exact nodup_keys_ite fun _ => nodup_cli_keys hv plural
    | ws | webhook => exact nodup_keys_ite fun _ => List.nodup_singleton _
    | grpc => exact nodup_keys_ite fun hg => nodup_grpc_keys hv hclash hg

end Module

/-! ## Registration -/

/-- Conflicts of a module with itself are reported exactly if two of its claims disagree. -/
theorem Registry.own_reported_iff {r : Registry} (hr : r.Coherent) {m : Module}
    (hnew : r.Meets m .newName) :
    (∃ x ∈ r.reported m, x.existing.module = m.name ∧ x.incoming.module = m.name) ↔
      ∃ c d, r.Disagree m c d := by
  constructor
  · rintro ⟨x, hx, hown, -⟩
    rcases collides_of_reported hx with ⟨c, e, hc, rfl⟩ | ⟨c, d, hcd, -⟩
    · exact absurd hown (hr.index_module_ne hnew hc.2)
    · exact ⟨c, d, hcd⟩
  · rintro ⟨c, d, hcd⟩
    obtain ⟨first, hm, hf, hk⟩ := exists_first_key hcd.left
    have hfirst : firstAction? (r.derived m) first.key = some first.action :=
      firstAction?_eq_some_iff.2 ⟨first, hk ▸ hf, rfl⟩
    -- the first claim with the key disagrees with one of the two
    obtain ⟨e, he⟩ : ∃ e, r.Disagree m first e := by
      by_cases ha : first.action = c.action
      · exact ⟨d, hm, hcd.right, hk.trans hcd.key, ha ▸ hcd.action⟩
      · exact ⟨c, hm, hcd.left, hk, ha⟩
    obtain ⟨x, hx, hb⟩ := disagreement_reported he hfirst
    exact ⟨x, hx, by rw [hb.existing], by rw [hb.incoming]⟩

/-- A valid module without explicit endpoints collides with itself exactly if gRPC is enabled and
two of its actions have one compound form. Only then do keys of its claims coincide, whatever the
mode of endpoints and the plural, and only then is it refused for conflicts with itself. -/
theorem own_collision_iff {config : Config} {r : Registry} (hr : Reachable config r) {m : Module}
    (hv : m.report? = none) (he : m.channels.http.endpoints = []) :
    (∀ mode plural, ((m.claims mode plural).map (·.key)).Nodup ↔ ¬ m.MethodsClash) ∧
    ∀ n xs, r.register m = .error (.pathsTaken n xs) →
      ((∃ x ∈ xs, x.existing.module = m.name ∧ x.incoming.module = m.name) ↔
        m.MethodsClash) := by
  refine ⟨fun mode plural => Module.nodup_keys_iff_not_clash hv he, fun n xs hreg => ?_⟩
  obtain ⟨hmet, -, rfl⟩ := Registry.register_eq_pathsTaken hreg
  rw [Registry.own_reported_iff hr.coherent (hmet .newName (by decide))]
  constructor
  · rintro ⟨c, d, hcd⟩
    by_contra hclash
    have hnodup : ((r.derived m).map (·.key)).Nodup :=
      (Module.nodup_keys_iff_not_clash hv he).2 hclash
    exact hcd.action (congrArg _ (List.inj_on_of_nodup_map hnodup hcd.left hcd.right hcd.key))
  · intro hclash
    obtain ⟨c, hc, d, hd, hk, hne⟩ := hclash.exists_key_eq r.config.endpoints m.plural
    exact ⟨c, d, hc, hd, hk, hne⟩

/-- A module on all transports, with its items below `/notes`. -/
def wideModule (name : String) (actions : List String) : Module where
  name := name
  schema := .ofList [("title", { type := "string" })]
  actions := .ofList (actions.map (·, {}))
  channels :=
    { http := { enabled := true, basePath := some "/notes" }, cli := { enabled := true },
      websocket := { enabled := true }, webhook := { enabled := true },
      grpc := { enabled := true } }

/-- A registry with one such module. -/
def wideRegistry : Registry := (({} : Registry).run [.register (wideModule "memo" [])]).1

/-- A second module of this kind is refused, but not for conflicts with itself, as the compound
forms of its actions differ. -/
theorem distinct_forms_undisputed :
    let m := wideModule "note" ["ban", "ban_all"]
    Reachable {} wideRegistry ∧ m.report? = none ∧ m.channels.http.endpoints = [] ∧
      ((m.claims .replaceImplicit "notes").map (·.key)).Nodup ∧
      ∃ xs, wideRegistry.register m = .error (.pathsTaken "note" xs) ∧
        ¬ ∃ x ∈ xs, x.existing.module = "note" ∧ x.incoming.module = "note" := by
  intro m
  have hr : Reachable {} wideRegistry := .run (.start rfl) _
  have hv : m.report? = none := by decide +kernel
  have hreg : wideRegistry.register m = .error (.pathsTaken "note" (wideRegistry.reported m)) := by
    decide +kernel
  have hclash : ¬ m.MethodsClash := by
    have hforms : ∀ a ∈ m.actionNames, ∀ b ∈ m.actionNames,
        Naming.toPascal a = Naming.toPascal b → a = b := by decide +kernel
    rintro ⟨-, a, ha, b, hb, hne, hpascal⟩
    exact hne (hforms a ha b hb hpascal)
  obtain ⟨hkeys, hown⟩ := own_collision_iff hr hv rfl
  exact ⟨hr, hv, rfl, (hkeys _ _).2 hclash, _, hreg, fun h => hclash ((hown _ _ hreg).1 h)⟩

/-- An underscore at the start of a name is lost in its compound form. -/
theorem equal_forms_disputed :
    let m := wideModule "note" ["_ban", "ban"]
    m.report? = none ∧ m.channels.http.endpoints = [] ∧
      ¬ ((m.claims .additive "notes").map (·.key)).Nodup ∧
      ({} : Registry).register m = .error (.pathsTaken "note"
        [⟨.grpc, none, "/NoteService/Ban", "grpc:/NoteService/Ban", ⟨"note", "_ban"⟩,
          ⟨"note", "ban"⟩⟩]) := by
  decide +kernel

end Registrar
