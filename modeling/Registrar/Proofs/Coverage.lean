import Registrar.Proofs.Addresses
import Registrar.Proofs.Requests

/-!
# The addresses of an action

On the command line and over gRPC a module has one claim for each action that it has, and none for
anything else (`Module.length_claimsFor`). Over HTTP there are five implicit routes, one more for
each further action, whether or not its name is that of an implicit one, and one for each endpoint.
The route of a further action has the segments of the base path as it is declared, those of an item
and the name of the action (`Module.action_route`). `Module.actions_addressed` puts this together.
-/

namespace Registrar

open Text

/-- A path that starts with a slash has the canonical form that its segments make. -/
theorem Path.normalize_eq_ofSegments {path : String} (h : isAbsolute path = true) :
    normalize path = ofSegments (partsOf path) := by
  rw [← String.toList_inj, toList_ofSegments, normalize, String.toList_ofList,
    normalized_of_rooted (toList_trim_head h), segmentsOf_trimmed, partsOf, List.map_map]
  simp [Function.comp_def]

namespace Module

/-! ## Claims for an action -/

/-- The claims of the module for an action on a transport. -/
def claimsFor (m : Module) (mode : EndpointMode) (plural : String) (t : Transport)
    (action : String) : List Claim :=
  (m.claims mode plural).filter fun c => c.transport = t ∧ c.action = action

section
variable {m : Module} {mode : EndpointMode} {plural : String}

theorem filter_transport (t : Transport) :
    (m.claims mode plural).filter (·.transport = t) = m.claimsOn mode plural t := by
  have hpart : ∀ u, (m.claimsOn mode plural u).filter (·.transport = t) =
      if u = t then m.claimsOn mode plural u else [] := by
    intro u
    split
    · exact List.filter_eq_self.2 fun c hc => by simpa [transport_of_mem_claimsOn hc]
    · exact List.filter_eq_nil_iff.2 fun c hc => by simpa [transport_of_mem_claimsOn hc]
  rw [claims_eq_flatMap, List.filter_flatMap, List.flatMap_congr fun u _ => hpart u]
  cases t <;> simp [Transport.all]

theorem claimsFor_eq (t : Transport) (action : String) :
    m.claimsFor mode plural t action =
      (m.claimsOn mode plural t).filter (·.action = action) := by
  rw [← filter_transport, List.filter_filter, claimsFor]
  exact List.filter_congr fun c _ => by simp [and_comm]

/-- Where the claims on a transport list the names of the actions, each action has one of them. -/
theorem length_claimsFor {t : Transport}
    (h : (m.claimsOn mode plural t).map (·.action) = m.actionNames) (action : String) :
    (m.claimsFor mode plural t action).length = if m.hasAction action = true then 1 else 0 := by
  have hcount : (m.claimsFor mode plural t action).length =
      ((m.claimsOn mode plural t).map (·.action)).count action := by
    rw [claimsFor_eq, List.count, List.countP_map, List.countP_eq_length_filter]
    rfl
  simp only [hcount, h, nodup_actionNames.count, mem_actionNames_iff]

end

/-! ## Routes of actions -/

/-- The route of a further action: an item below the base path as it is declared, and the name of
the action. -/
def actionRoute (m : Module) (plural action : String) : Claim where
  transport := .http
  path := Path.ofSegments
    (Path.partsOf (m.channels.http.basePath.getD ("/" ++ plural)) ++ ["\x7bid\x7d", action])
  method := some "POST"
  module := m.name
  action := action

section
variable {m : Module} (hv : m.report? = none) {plural : String}
include hv

theorem partsOf_httpBase (plural : String) : Path.partsOf (m.httpBase plural) =
    Path.partsOf (m.channels.http.basePath.getD ("/" ++ plural)) := by
  have hc := channelProblems_eq_nil hv
  simp only [channelProblems, pathProblems, List.append_eq_nil_iff, List.flatMap_eq_nil_iff,
    Option.mem_toList, demand_eq_nil_iff] at hc
  unfold httpBase
  split
  · rename_i base hb
    rw [hb, Option.getD_some, Path.partsOf_normalize (hc.1.1.1.1.1 base hb)]
  · rename_i hb
    rw [hb, Option.getD_none]

theorem action_route {action : String} (ha : action ∈ m.actions.keys) :
    .http "POST" (Path.join (Path.join (m.httpBase plural) "\x7bid\x7d") action) m.name action =
      m.actionRoute plural action := by
  have hitem := Path.head?_join (head?_httpBase hv plural) "\x7bid\x7d"
  have habs := Path.isAbsolute_of_head (Path.head?_join hitem action)
  have hname := isIdentifier_of_mem_actionNames hv
    (mem_actionNames_iff.2 (hasAction_of_mem_keys ha))
  have hid : Path.partsOf "\x7bid\x7d" = ["\x7bid\x7d"] := by decide
  have hpost : toUpper (trim "POST") = "POST" := toUpper_trim_of_mem (by decide)
  rw [Claim.http, actionRoute, hpost, Path.normalize_eq_ofSegments habs, Path.partsOf_join,
    Path.partsOf_join, partsOf_httpBase hv, hid, Path.partsOf_of_isIdentifier hname,
    List.append_assoc, List.singleton_append]

end

section
variable {m : Module}

theorem length_implicitRoutes (plural : String) :
    (m.implicitRoutes plural).length = 5 + m.actions.size := by
  rw [implicitRoutes, List.length_append, List.length_map, Dict.keys, List.length_map, Dict.size]
  rfl

/-- Every action has an implicit route: one of the five, or that of a further action. -/
theorem exists_implicitRoute (plural : String) {action : String} (h : m.hasAction action = true) :
    ∃ c ∈ m.implicitRoutes plural, c.action = action := by
  rcases Bool.or_eq_true_iff.1 h with h | h
  · have hnames : implicitActions ⊆ (m.implicitRoutes plural).map (·.action) := by
      simp [implicitActions, implicitRoutes, Claim.http]
    exact List.mem_map.1 (hnames (List.contains_iff_mem.1 h))
  · exact ⟨_, List.mem_append_right _
      (List.mem_map_of_mem (Dict.contains_iff_mem_keys.1 h)), rfl⟩

end

/-! ## All channels -/

/-- What a valid module claims for its actions. On the command line and over gRPC every action has
exactly one claim and nothing else has any. Over HTTP, where the implicit routes are not replaced,
every action has a claim, every further one has its own route, and there are five claims beside
those for further actions and for endpoints. -/
theorem actions_addressed {m : Module} (hv : m.report? = none) (mode : EndpointMode)
    (plural : String) :
    (m.channels.cli.enabled = true → ∀ action,
      (m.claimsFor mode plural .cli action).length = if m.hasAction action = true then 1 else 0) ∧
    (m.channels.grpc.enabled = true → ∀ action,
      (m.claimsFor mode plural .grpc action).length = if m.hasAction action = true then 1 else 0) ∧
    (m.channels.http.enabled = true → m.replacesImplicit mode = false →
      (∀ action, m.hasAction action = true → m.claimsFor mode plural .http action ≠ []) ∧
      (∀ action ∈ m.actions.keys, m.actionRoute plural action ∈ m.claims mode plural) ∧
      ((m.claims mode plural).filter (·.transport = .http)).length =
        5 + m.actions.size + m.channels.http.endpoints.length) := by
  refine ⟨fun hcli => length_claimsFor ?_, fun hgrpc => length_claimsFor ?_, fun hhttp hr => ?_⟩
  · simp [claimsOn, hcli, cliClaims, Claim.plain, Function.comp_def]
  · simp [claimsOn, hgrpc, grpcClaims, Claim.plain, Function.comp_def]
  · have hroutes : m.claimsOn mode plural .http = m.implicitRoutes plural ++ m.explicitRoutes := by
      simp [claimsOn, hhttp, httpClaims, hr]
    refine ⟨fun action ha => ?_, fun action ha => ?_, ?_⟩
    · obtain ⟨c, hc, hca⟩ := exists_implicitRoute plural ha
      rw [claimsFor_eq, hroutes]
      exact List.ne_nil_of_mem
        (List.mem_filter.2 ⟨List.mem_append_left _ hc, by simpa using hca⟩)
    · rw [← action_route hv ha]
      have hmem : Claim.http "POST" (Path.join (Path.join (m.httpBase plural) "\x7bid\x7d") action)
          m.name action ∈ m.claimsOn mode plural .http := by
        rw [hroutes]
        exact List.mem_append_left _ (List.mem_append_right _ (List.mem_map_of_mem ha))
      exact (mem_claimsOn_iff.1 hmem).1
    · rw [filter_transport, hroutes, List.length_append, length_implicitRoutes, explicitRoutes,
        List.length_map]

end Module

/-- A module with a further action that has the name of an implicit one, on routes below a
parameter. -/
def clinicModule : Module where
  name := "visit"
  schema := .ofList [("title", { type := "string" })]
  actions := .ofList [("get", {}), ("close", {})]
  channels :=
    { http :=
        { enabled := true, basePath := some " /clinics//<int:clinic>/visits/ "
          endpoints := [⟨"get", "/today", "list"⟩] }
      cli := { enabled := true }
      grpc := { enabled := true } }

/-- The repeated name has one command and one method, and a route of its own beside the one that it
has as an implicit action. -/
theorem clinic_addressed :
    clinicModule.report? = none ∧
    (clinicModule.claimsFor .additive "visits" .cli "get").length = 1 ∧
    (clinicModule.claimsFor .additive "visits" .grpc "get").length = 1 ∧
    (clinicModule.claimsFor .additive "visits" .cli "open").length = 0 ∧
    clinicModule.claimsFor .additive "visits" .http "list" ≠ [] ∧
    Claim.http "POST" "/clinics/\x7bclinic\x7d/visits/\x7bid\x7d/get" "visit" "get" ∈
      clinicModule.claims .additive "visits" ∧
    ((clinicModule.claims .additive "visits").filter (·.transport = .http)).length = 5 + 2 + 1 := by
  have hv : clinicModule.report? = none := by decide +kernel
  obtain ⟨hcli, hgrpc, hhttp⟩ := Module.actions_addressed hv .additive "visits"
  obtain ⟨hsome, hroute, hlength⟩ := hhttp rfl rfl
  have hget : Claim.http "POST" "/clinics/\x7bclinic\x7d/visits/\x7bid\x7d/get" "visit" "get" =
      clinicModule.actionRoute "visits" "get" := by decide +kernel
  exact ⟨hv, hcli rfl "get", hgrpc rfl "get", hcli rfl "open", hsome "list" rfl,
    hget ▸ hroute "get" (by decide), hlength⟩

end Registrar
