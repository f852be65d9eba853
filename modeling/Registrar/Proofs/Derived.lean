import Registrar.Validation
import Registrar.Derivation

/-!
# What derived claims are like

Facts about every claim that a module makes (`Module.claims`), whatever the mode of endpoints and
the plural: it belongs to the module, the method of an HTTP claim of a valid module is one of
`httpMethods`, and other claims have none.
-/

namespace Registrar

open Text

namespace Module

/-! ## Validity -/

theorem report?_eq_none_iff (m : Module) : m.report? = none ↔ m.problems = [] := by
  unfold report? Report.nonempty?
  split
  · rename_i h
    simpa using h
  · rename_i h
    simpa using h

theorem demand_eq_nil_iff {ok : Bool} {p : Problem} : demand ok p = [] ↔ ok = true := by
  cases ok <;> simp [demand]

/-- What holds of an endpoint of a valid module. -/
theorem endpoint_sound {m : Module} (h : m.report? = none) {e : Endpoint}
    (he : e ∈ m.channels.http.endpoints) :
    toUpper (trim e.method) ∈ httpMethods ∧ isAbsolute e.path = true ∧
      m.hasAction e.action = true := by
  rw [report?_eq_none_iff] at h
  have hc : m.channelProblems = [] := (List.append_eq_nil_iff.1 h).2
  simp only [channelProblems, List.append_eq_nil_iff, List.flatMap_eq_nil_iff] at hc
  have hp : e.problems m = [] := hc.1.1.2 e he
  simp only [Endpoint.problems, List.append_eq_nil_iff, demand_eq_nil_iff] at hp
  exact ⟨List.contains_iff_mem.1 hp.1.1, hp.1.2, hp.2⟩

/-! ## Claims channel by channel -/

theorem mem_claims_iff {m : Module} {mode : EndpointMode} {plural : String} {c : Claim} :
    c ∈ m.claims mode plural ↔
      (m.channels.http.enabled = true ∧ c ∈ m.httpClaims mode plural) ∨
      (m.channels.cli.enabled = true ∧ c ∈ m.cliClaims plural) ∨
      (m.channels.websocket.enabled = true ∧ c = m.socketClaim plural) ∨
      (m.channels.webhook.enabled = true ∧ c = m.webhookClaim) ∨
      (m.channels.grpc.enabled = true ∧ c ∈ m.grpcClaims) := by
  simp only [claims, List.mem_append, List.mem_ite_nil_right, List.mem_singleton, or_assoc]

/-- An HTTP claim is made with some method and path, either on an implicit route or for an
endpoint. -/
theorem mem_httpClaims {m : Module} {mode : EndpointMode} {plural : String} {c : Claim}
    (h : c ∈ m.httpClaims mode plural) :
    ∃ method path action, c = .http method path m.name action ∧
      (method ∈ httpMethods ∨ ∃ e ∈ m.channels.http.endpoints, e.method = method) := by
  rcases List.mem_append.1 h with h | h
  · split at h
    · cases h
    · rcases List.mem_append.1 h with h | h
      · simp only [List.mem_cons, List.not_mem_nil, or_false] at h
        rcases h with rfl | rfl | rfl | rfl | rfl <;>
          exact ⟨_, _, _, rfl, .inl (by decide)⟩
      · obtain ⟨action, -, rfl⟩ := List.mem_map.1 h
        exact ⟨_, _, _, rfl, .inl (by decide)⟩
  · obtain ⟨e, he, rfl⟩ := List.mem_map.1 h
    exact ⟨_, _, _, rfl, .inr ⟨e, he, rfl⟩⟩

/-- Off HTTP a claim is made with a path alone. -/
theorem claim_cases {m : Module} {mode : EndpointMode} {plural : String} {c : Claim}
    (h : c ∈ m.claims mode plural) :
    c ∈ m.httpClaims mode plural ∨
      ∃ t path action, t ≠ .http ∧ c = .plain t path m.name action := by
  rcases mem_claims_iff.1 h with ⟨-, h⟩ | ⟨-, h⟩ | ⟨-, rfl⟩ | ⟨-, rfl⟩ | ⟨-, h⟩
  · exact .inl h
  · obtain ⟨action, -, rfl⟩ := List.mem_map.1 h
    exact .inr ⟨.cli, _, _, nofun, rfl⟩
  · exact .inr ⟨.ws, _, _, nofun, rfl⟩
  · exact .inr ⟨.webhook, _, _, nofun, rfl⟩
  · obtain ⟨action, -, rfl⟩ := List.mem_map.1 h
    exact .inr ⟨.grpc, _, _, nofun, rfl⟩

/-! ## Owner and method -/

theorem toUpper_trim_of_mem {k : String} (h : k ∈ httpMethods) : toUpper (trim k) = k := by
  have hall : ∀ k ∈ httpMethods, toUpper (trim k) = k := by decide
  exact hall k h

theorem claim_module {m : Module} {mode : EndpointMode} {plural : String} {c : Claim}
    (h : c ∈ m.claims mode plural) : c.module = m.name := by
  rcases claim_cases h with h | ⟨t, path, action, -, rfl⟩
  · obtain ⟨method, path, action, rfl, -⟩ := mem_httpClaims h
    rfl
  · rfl

theorem claim_method {m : Module} (hv : m.report? = none) {mode : EndpointMode} {plural : String}
    {c : Claim} (h : c ∈ m.claims mode plural) (ht : c.transport = .http) :
    ∃ method ∈ httpMethods, c.method = some method := by
  rcases claim_cases h with h | ⟨t, path, action, hne, rfl⟩
  · obtain ⟨method, path, action, rfl, hm | ⟨e, he, rfl⟩⟩ := mem_httpClaims h
    · exact ⟨method, hm, congrArg some (toUpper_trim_of_mem hm)⟩
    · exact ⟨_, (endpoint_sound hv he).1, rfl⟩
  · exact absurd ht hne

theorem claim_method_eq_none {m : Module} {mode : EndpointMode} {plural : String} {c : Claim}
    (h : c ∈ m.claims mode plural) (ht : c.transport ≠ .http) : c.method = none := by
  rcases claim_cases h with h | ⟨t, path, action, -, rfl⟩
  · obtain ⟨method, path, action, rfl, -⟩ := mem_httpClaims h
    exact absurd rfl ht
  · rfl

end Module

end Registrar
