import Registrar.Proofs.Resolution

/-!
# Listings

A registry lists its claims by transport in three orders, and its modules by name.
`Registry.Lists r t cs` says that `cs` holds the claims of the registered modules on the transport
`t`, each of them once, in whichever order. The index of a transport does (`Registry.lists_claims`),
and sorting keeps it so (`Registry.Lists.mergeSort`). Claims of one transport have different keys,
and a key is made of the method and the path, so no two HTTP claims are level in the order of path
and method, and no two commands in the order of paths. `listings_of_reachable` puts this together.
-/

namespace Registrar

/-! ## Orders of claims -/

/-- The claim comes before the other by path, then by method. -/
def Claim.RouteLt (c d : Claim) : Prop :=
  Prod.Lex (· < ·) (· < ·) (c.path, c.method) (d.path, d.method)

namespace Registry

theorem methodLe_trans {a b c : Option String} (hab : methodLe a b = true)
    (hbc : methodLe b c = true) : methodLe a c = true := by
  cases a with
  | none => rfl
  | some a =>
    cases b with
    | none => cases hab
    | some b =>
      cases c with
      | none => cases hbc
      | some c =>
        simp only [methodLe, decide_eq_true_eq] at *
        exact String.le_trans hab hbc

theorem methodLe_total (a b : Option String) : methodLe a b = true ∨ methodLe b a = true := by
  cases a with
  | none => exact .inl rfl
  | some a =>
    cases b with
    | none => exact .inr rfl
    | some b => simpa only [methodLe, decide_eq_true_eq] using String.le_total a b

theorem lt_of_methodLe {a b : Option String} (h : methodLe a b = true) (hne : a ≠ b) : a < b := by
  cases a with
  | none =>
    cases b with
    | none => exact absurd rfl hne
    | some b => trivial
  | some a =>
    cases b with
    | none => cases h
    | some b =>
      have hle : a ≤ b := by simpa only [methodLe, decide_eq_true_eq] using h
      exact Dict.lt_of_not_lt_of_ne (String.not_lt.2 hle) fun he => hne (he ▸ rfl)

theorem routeLe_iff {a b : Claim} : routeLe a b = true ↔
    a.path < b.path ∨ (a.path = b.path ∧ methodLe a.method b.method = true) := by
  simp [routeLe]

theorem routeLe_trans (a b c : Claim) (hab : routeLe a b = true) (hbc : routeLe b c = true) :
    routeLe a c = true := by
  rw [routeLe_iff] at *
  rcases hab with hab | ⟨hp, hab⟩ <;> rcases hbc with hbc | ⟨hp', hbc⟩
  · exact .inl (String.lt_trans hab hbc)
  · exact .inl (hp' ▸ hab)
  · exact .inl (hp ▸ hbc)
  · exact .inr ⟨hp.trans hp', methodLe_trans hab hbc⟩

theorem routeLe_total (a b : Claim) : (routeLe a b || routeLe b a) = true := by
  rw [Bool.or_eq_true, routeLe_iff, routeLe_iff]
  by_cases hab : a.path < b.path
  · exact .inl (.inl hab)
  · by_cases hp : a.path = b.path
    · exact (methodLe_total a.method b.method).imp (.inr ⟨hp, ·⟩) (.inr ⟨hp.symm, ·⟩)
    · exact .inr (.inl (Dict.lt_of_not_lt_of_ne hab hp))

/-! ## Complete listings -/

/-- The claims are those that the registered modules make on the transport, each one once. -/
structure Lists (r : Registry) (t : Transport) (cs : List Claim) : Prop where
  nodup : cs.Nodup
  mem_iff : ∀ c, c ∈ cs ↔ c.transport = t ∧ ∃ n, r.Holds n c

theorem Lists.mergeSort {r : Registry} {t : Transport} {cs : List Claim} (h : r.Lists t cs)
    (le : Claim → Claim → Bool) : r.Lists t (cs.mergeSort le) where
  nodup := (List.mergeSort_perm cs le).nodup_iff.2 h.nodup
  mem_iff c := (List.mergeSort_perm cs le).mem_iff.trans (h.mem_iff c)

section
variable {r : Registry} (h : r.Coherent)
include h

theorem lists_claims (t : Transport) : r.Lists t (r.claims t) where
  nodup := (claims_pairwise h t).imp fun {c d} hlt he => by
    rw [he] at hlt
    exact String.lt_irrefl _ hlt
  mem_iff c := by
    rw [mem_claims_iff h]
    refine and_congr_right fun _ => ⟨fun hh => ⟨c.module, hh⟩, ?_⟩
    rintro ⟨n, hh⟩
    rwa [h.holds_module hh]

/-- However the claims of a transport are sorted, no two of them have one key. -/
theorem keys_ne_mergeSort (t : Transport) (le : Claim → Claim → Bool) :
    ((r.claims t).mergeSort le).Pairwise fun c d => c.key ≠ d.key := by
  refine ((List.mergeSort_perm _ le).pairwise_iff fun hne => Ne.symm hne).2 ?_
  exact (claims_pairwise h t).imp fun {c d} hlt he => by
    rw [he] at hlt
    exact String.lt_irrefl _ hlt

theorem pairwise_httpPaths : r.httpPaths.Pairwise Claim.RouteLt := by
  have hsort : r.httpPaths.Pairwise fun a b => routeLe a b = true :=
    List.pairwise_mergeSort routeLe_trans routeLe_total (r.claims .http)
  have hkeys : r.httpPaths.Pairwise fun c d => c.key ≠ d.key := keys_ne_mergeSort h .http routeLe
  have hhttp := ((lists_claims h .http).mergeSort routeLe).mem_iff
  refine (hsort.and hkeys).imp_of_mem fun {c d} hc hd ⟨hle, hne⟩ => Prod.lex_def.2 ?_
  -- one path and one method would make one key
  have hmethod : c.path = d.path → c.method ≠ d.method := fun hp hm => hne (by
    rw [Claim.key, Claim.key, ((hhttp c).1 hc).1, ((hhttp d).1 hd).1, hm, hp])
  exact (routeLe_iff.1 hle).imp_right fun ⟨hp, hm⟩ => ⟨hp, lt_of_methodLe hm (hmethod hp)⟩

theorem pairwise_cliPaths : r.cliPaths.Pairwise fun c d => c.path < d.path := by
  have hsort : r.cliPaths.Pairwise fun a b => decide (a.path ≤ b.path) = true := by
    refine List.pairwise_mergeSort (fun a b c hab hbc => ?_) (fun a b => ?_) (r.claims .cli)
    · rw [decide_eq_true_eq] at *
      exact String.le_trans hab hbc
    · simpa using String.le_total a.path b.path
  have hkeys : r.cliPaths.Pairwise fun c d => c.key ≠ d.key := keys_ne_mergeSort h .cli _
  have hcli := ((lists_claims h .cli).mergeSort fun a b => a.path ≤ b.path).mem_iff
  refine (hsort.and hkeys).imp_of_mem fun {c d} hc hd ⟨hle, hne⟩ => ?_
  refine Dict.lt_of_not_lt_of_ne (String.not_lt.2 (of_decide_eq_true hle)) fun hp => hne ?_
  rw [Claim.key, Claim.key, ((hcli c).1 hc).1, ((hcli d).1 hd).1, hp]
  rfl

/-- The names of the registered modules are those under which they are registered. -/
theorem names_eq : r.names = r.all.map (·.module.name) := by
  unfold names all Dict.keys Dict.values
  rw [List.map_map]
  refine List.map_congr_left fun e he => ?_
  exact ((h.proper e.1 e.2 (Dict.get?_eq_some_iff.2 he)).name).symm

end

theorem claimCount_eq (r : Registry) :
    (Transport.all.map fun t => (r.claims t).length).sum = r.claimCount := by
  simp only [Transport.all, List.map_cons, List.map_nil, List.sum_cons, List.sum_nil, claims,
    Dict.values, List.length_map, claimCount, PathIndex.size, Dict.size]
  omega

/-! ## All listings -/

/-- The listings of the registry are complete, without repetition and in their order. -/
structure Listed (r : Registry) : Prop where
  http : r.Lists .http r.httpPaths
  byRoute : r.httpPaths.Pairwise Claim.RouteLt
  cli : r.Lists .cli r.cliPaths
  byCommand : r.cliPaths.Pairwise fun c d => c.path < d.path
  claims : ∀ t, r.Lists t (r.claims t)
  byKey : ∀ t, (r.claims t).Pairwise fun c d => c.key < d.key
  count : (Transport.all.map fun t => (r.claims t).length).sum = r.claimCount
  names : r.names = r.all.map (·.module.name)
  byName : r.names.Pairwise (· < ·)
  size : r.names.length = r.size

end Registry

theorem listings_of_reachable {config : Config} {r : Registry} (hr : Reachable config r) :
    r.Listed where
  http := (Registry.lists_claims hr.coherent .http).mergeSort _
  byRoute := Registry.pairwise_httpPaths hr.coherent
  cli := (Registry.lists_claims hr.coherent .cli).mergeSort _
  byCommand := Registry.pairwise_cliPaths hr.coherent
  claims := Registry.lists_claims hr.coherent
  byKey := Registry.claims_pairwise hr.coherent
  count := r.claimCount_eq
  names := Registry.names_eq hr.coherent
  byName := List.pairwise_map.2 r.modules.sorted
  size := List.length_map _

/-- Two routes that stand the other way round by path than by key. -/
theorem note_listed :
    Reachable {} noteRegistry ∧ noteRegistry.Listed ∧
    ∃ c ∈ noteRegistry.httpPaths, ∃ d ∈ noteRegistry.httpPaths, d.key < c.key ∧ c.RouteLt d := by
  have hr : Reachable {} noteRegistry := .run (.start rfl) _
  have hl := listings_of_reachable hr
  have hheld : ∀ c ∈ noteRegistry.claims .http, c ∈ noteRegistry.httpPaths := fun c hc =>
    (hl.http.mem_iff c).2 (((hl.claims .http).mem_iff c).1 hc)
  refine ⟨hr, hl, .http "GET" "/A:x" "note" "list", hheld _ (by decide +kernel),
    .http "DELETE" "/notes/:id" "note" "delete", hheld _ (by decide +kernel), by decide, ?_⟩
  exact Prod.lex_def.2 (.inl (by decide))

end Registrar
