import Registrar.Proofs.Coherence

/-!
# The claim that a request resolves to

`Claim.Precedes` is the order of preference among claims that match a request: more literal
segments, then the higher priority, then the lesser key. `best` goes through matches in the order of
their keys and keeps the first of the best, which precedes all others (`best_precedes`). In a
reachable registry a lookup therefore gives the claim under the very key of the request, or else the
one claim that precedes all that match it (`lookup_resolves`).
-/

namespace Registrar

open Text

/-! ## Preference -/

/-- The first claim is preferred to the second where both match a request. -/
def Claim.Precedes (a b : Claim) : Prop :=
  b.literals < a.literals ∨ (a.literals = b.literals ∧
    (b.priority.getD 0 < a.priority.getD 0 ∨
      (a.priority.getD 0 = b.priority.getD 0 ∧ a.key < b.key)))

namespace Claim.Precedes

theorem trans {a b c : Claim} (hab : a.Precedes b) (hbc : b.Precedes c) : a.Precedes c := by
  rcases hab with hab | ⟨hl, hab | ⟨hp, hab⟩⟩ <;> rcases hbc with hbc | ⟨hl', hbc | ⟨hp', hbc⟩⟩
  · exact .inl (Nat.lt_trans hbc hab)
  · exact .inl (hl' ▸ hab)
  · exact .inl (hl' ▸ hab)
  · exact .inl (hl ▸ hbc)
  · exact .inr ⟨hl.trans hl', .inl (Int.lt_trans hbc hab)⟩
  · exact .inr ⟨hl.trans hl', .inl (hp' ▸ hab)⟩
  · exact .inl (hl ▸ hbc)
  · exact .inr ⟨hl.trans hl', .inl (hp ▸ hbc)⟩
  · exact .inr ⟨hl.trans hl', .inr ⟨hp.trans hp', String.lt_trans hab hbc⟩⟩

theorem irrefl (a : Claim) : ¬ a.Precedes a := by
  rintro (h | ⟨-, h | ⟨-, h⟩⟩)
  · exact Nat.lt_irrefl _ h
  · exact Int.lt_irrefl _ h
  · exact String.lt_irrefl _ h

end Claim.Precedes

namespace Registry

theorem precedes_of_outranks {a b : Match} (h : outranks a b = true) :
    a.claim.Precedes b.claim := by
  simp only [outranks, Bool.or_eq_true, Bool.and_eq_true, decide_eq_true_eq, beq_iff_eq] at h
  rcases h with h | ⟨hl, hp⟩
  · exact .inl h
  · exact .inr ⟨hl, .inl hp⟩

/-- Where the later claim does not outrank the earlier one, the key decides. -/
theorem precedes_of_not_outranks {a b : Match} (h : outranks b a = false)
    (hk : a.claim.key < b.claim.key) : a.claim.Precedes b.claim := by
  simp only [outranks, Bool.or_eq_false_iff, Bool.and_eq_false_iff, decide_eq_false_iff_not,
    beq_eq_false_iff_ne] at h
  obtain ⟨hl, hp⟩ := h
  rcases Nat.lt_or_ge b.claim.literals a.claim.literals with hlt | hge
  · exact .inl hlt
  · have hlit : a.claim.literals = b.claim.literals := by omega
    have hprio := hp.resolve_left (not_not_intro hlit.symm)
    refine .inr ⟨hlit, ?_⟩
    rcases Int.lt_or_eq_of_le (Int.not_lt.1 hprio) with hlt | heq
    · exact .inl hlt
    · exact .inr ⟨heq.symm, hk⟩

theorem foldl_best {m : Match} {ms : List Match}
    (hs : (m :: ms).Pairwise fun a b => a.claim.key < b.claim.key) :
    ms.foldl (fun b m => if outranks m b then m else b) m ∈ m :: ms ∧
      ∀ x ∈ m :: ms, x = ms.foldl (fun b m => if outranks m b then m else b) m ∨
        (ms.foldl (fun b m => if outranks m b then m else b) m).claim.Precedes x.claim := by
  induction ms generalizing m with
  | nil => simp
  | cons a ms ih =>
    obtain ⟨hm, hs⟩ := List.pairwise_cons.1 hs
    rw [List.foldl_cons]
    cases hr : outranks a m with
    | true =>
      obtain ⟨hin, hbest⟩ := ih hs
      simp only [if_true]
      refine ⟨List.mem_cons_of_mem _ hin, List.forall_mem_cons.2 ⟨.inr ?_, hbest⟩⟩
      have ham := precedes_of_outranks hr
      rcases hbest a List.mem_cons_self with he | hp
      · exact he ▸ ham
      · exact hp.trans ham
    | false =>
      have hs' : (m :: ms).Pairwise fun a b => a.claim.key < b.claim.key :=
        List.pairwise_cons.2 ⟨fun x hx => hm x (List.mem_cons_of_mem _ hx), hs.of_cons⟩
      obtain ⟨hin, hbest⟩ := ih hs'
      simp only [Bool.false_eq_true, if_false]
      refine ⟨?_, List.forall_mem_cons.2 ⟨hbest m List.mem_cons_self, List.forall_mem_cons.2
        ⟨.inr ?_, fun x hx => hbest x (List.mem_cons_of_mem _ hx)⟩⟩⟩
      · rcases List.mem_cons.1 hin with he | hin
        · exact List.mem_cons.2 (.inl he)
        · exact List.mem_cons_of_mem _ (List.mem_cons_of_mem _ hin)
      · have hma := precedes_of_not_outranks hr (hm a List.mem_cons_self)
        rcases hbest m List.mem_cons_self with he | hp
        · exact he ▸ hma
        · exact hp.trans hma

/-- The best of matches in the order of their keys precedes all others. -/
theorem best_precedes {ms : List Match}
    (hs : ms.Pairwise fun a b => a.claim.key < b.claim.key) {m : Match} (h : best ms = some m) :
    m ∈ ms ∧ ∀ x ∈ ms, x = m ∨ m.claim.Precedes x.claim := by
  cases ms with
  | nil => cases h
  | cons a ms =>
    cases h
    exact foldl_best hs

theorem best_eq_none_iff {ms : List Match} : best ms = none ↔ ms = [] := by
  cases ms <;> simp [best]

theorem exists_best {ms : List Match} {m : Match} (h : m ∈ ms) : ∃ b, best ms = some b :=
  Option.ne_none_iff_exists'.1 fun hn => List.ne_nil_of_mem h (best_eq_none_iff.1 hn)

/-- Among matches in the order of their keys the best is the one that precedes all others. -/
theorem best_eq_some_iff {ms : List Match}
    (hs : ms.Pairwise fun a b => a.claim.key < b.claim.key) {m : Match} :
    best ms = some m ↔ m ∈ ms ∧ ∀ x ∈ ms, x = m ∨ m.claim.Precedes x.claim := by
  refine ⟨best_precedes hs, fun ⟨hin, hpre⟩ => ?_⟩
  obtain ⟨b, hb⟩ := exists_best hin
  obtain ⟨hbin, hbpre⟩ := best_precedes hs hb
  rw [hb, Option.some.injEq]
  -- two different matches would each precede the other
  rcases hpre b hbin with heq | hmb
  · exact heq
  · rcases hbpre m hin with heq | hbm
    · exact heq.symm
    · exact absurd (hmb.trans hbm) (Claim.Precedes.irrefl _)

/-! ## Matches -/

/-- The match is of a claim that the registry holds on the transport, and it serves the request:
the claim has the method, which counts over HTTP alone, and its path captures the parameters. -/
structure Fits (r : Registry) (t : Transport) (method path : String) (m : Match) : Prop where
  held : m.claim ∈ r.claims t
  method : t = .http → m.claim.method = some method
  params : m.claim.captures? path = some m.params

theorem candidate?_eq_some_iff {method path : String} {c : Claim} {m : Match} :
    candidate? method path c = some m ↔ m.claim = c ∧
      (c.transport = .http → c.method = some method) ∧ c.captures? path = some m.params := by
  have hm : ∀ t : Transport, (t.usesMethod && c.method ≠ some method) = true ↔
      ¬ (t = .http → c.method = some method) := by
    intro t
    cases t <;> simp [Transport.usesMethod]
  unfold candidate?
  split
  · rename_i h
    exact ⟨nofun, fun ⟨_, hmeth, _⟩ => absurd hmeth ((hm _).1 h)⟩
  · rename_i h
    rw [hm, not_not] at h
    simp only [Option.map_eq_some_iff]
    constructor
    · rintro ⟨params, hp, rfl⟩
      exact ⟨rfl, h, hp⟩
    · rintro ⟨rfl, -, hp⟩
      exact ⟨m.params, hp, rfl⟩

section
variable {r : Registry} (hr : r.Coherent)
include hr

theorem mem_claims_iff {t : Transport} {c : Claim} :
    c ∈ r.claims t ↔ c.transport = t ∧ r.Holds c.module c := by
  unfold claims
  rw [Dict.mem_values_iff]
  constructor
  · rintro ⟨k, hk⟩
    obtain ⟨ha, hh⟩ := (hr.paths t k c).1 hk
    exact ⟨ha.1, hh⟩
  · rintro ⟨ht, hh⟩
    exact ⟨c.key, (hr.paths t c.key c).2 ⟨⟨ht, rfl⟩, hh⟩⟩

/-- A claim that is held is one that a valid module makes. -/
theorem exists_maker {t : Transport} {c : Claim} (hc : c ∈ r.claims t) :
    ∃ (m : Module) (plural : String),
      m.report? = none ∧ c ∈ m.claims r.config.endpoints plural := by
  obtain ⟨-, e, he, hce⟩ := (mem_claims_iff hr).1 hc
  have hp := hr.proper _ e he
  exact ⟨e.module, e.plural, hp.valid, hp.derived hce⟩

theorem mem_candidates_iff {t : Transport} {method path : String} {m : Match} :
    m ∈ (r.claims t).filterMap (candidate? method path) ↔ r.Fits t method path m := by
  simp only [List.mem_filterMap, candidate?_eq_some_iff]
  constructor
  · rintro ⟨c, hc, rfl, hm, hp⟩
    exact ⟨hc, fun ht => hm (((mem_claims_iff hr).1 hc).1.trans ht), hp⟩
  · rintro ⟨hc, hm, hp⟩
    exact ⟨m.claim, hc, rfl, fun ht => hm (((mem_claims_iff hr).1 hc).1.symm.trans ht), hp⟩

theorem claims_pairwise (t : Transport) : (r.claims t).Pairwise fun c d => c.key < d.key := by
  refine List.pairwise_map.2 ((r.paths.on t).sorted.imp_of_mem fun {a b} ha hb hab => ?_)
  have hkey : ∀ e ∈ (r.paths.on t).entries, e.2.key = e.1 := fun e he =>
    ((hr.paths t e.1 e.2).1 (Dict.get?_eq_some_iff.2 he)).1.2
  rw [hkey a ha, hkey b hb]
  exact hab

theorem candidates_pairwise (t : Transport) (method path : String) :
    ((r.claims t).filterMap (candidate? method path)).Pairwise
      fun a b => a.claim.key < b.claim.key := by
  refine List.pairwise_filterMap.2 ((claims_pairwise hr t).imp fun {c d} hcd a ha b hb => ?_)
  rw [(candidate?_eq_some_iff.1 ha).1, (candidate?_eq_some_iff.1 hb).1]
  exact hcd

end

/-! ## Lookups -/

theorem lookup_of_key {r : Registry} {t : Transport} {method path : String} {c : Claim}
    (h : (r.paths.on t).get? (t.key (some (toUpper (trim method))) (Path.normalize path)) =
      some c) :
    r.lookup t method path = some ⟨c, (c.captures? (Path.normalize path)).getD ∅⟩ := by
  simp only [lookup, h]

theorem lookup_of_no_key {r : Registry} {t : Transport} {method path : String}
    (h : (r.paths.on t).get? (t.key (some (toUpper (trim method))) (Path.normalize path)) = none) :
    r.lookup t method path =
      best ((r.claims t).filterMap (candidate? (toUpper (trim method)) (Path.normalize path))) := by
  simp only [lookup, h]
  rfl

end Registry

/-- What a request resolves to: the claim under its very key, or else the match that precedes every
other one, or nothing where there is neither. -/
theorem lookup_resolves {config : Config} {r : Registry} (hr : Reachable config r) (t : Transport)
    (method path : String) :
    let M := toUpper (trim method)
    let P := Path.normalize path
    let K := t.key (some M) P
    (∀ c, (r.paths.on t).get? K = some c →
      r.lookup t method path = some ⟨c, (c.captures? P).getD ∅⟩) ∧
    ((r.paths.on t).get? K = none → ∀ m, r.lookup t method path = some m ↔
      r.Fits t M P m ∧ ∀ x, r.Fits t M P x → x = m ∨ m.claim.Precedes x.claim) ∧
    (r.lookup t method path = none ↔
      (r.paths.on t).get? K = none ∧ ∀ m, ¬ r.Fits t M P m) := by
  intro M P K
  have hc := hr.coherent
  have hmem : ∀ m, m ∈ (r.claims t).filterMap (Registry.candidate? M P) ↔ r.Fits t M P m :=
    fun m => Registry.mem_candidates_iff hc
  have hsort := Registry.candidates_pairwise hc t M P
  refine ⟨fun c hk => Registry.lookup_of_key hk, fun hk m => ?_, ?_⟩
  · rw [Registry.lookup_of_no_key hk, Registry.best_eq_some_iff hsort]
    simp only [hmem]
  · cases hk : (r.paths.on t).get? K with
    | some c => simp [Registry.lookup_of_key hk]
    | none =>
      rw [Registry.lookup_of_no_key hk, Registry.best_eq_none_iff, List.eq_nil_iff_forall_not_mem]
      exact ⟨fun h => ⟨rfl, fun m hm => h m ((hmem m).2 hm)⟩, fun h m hm => h.2 m ((hmem m).1 hm)⟩

/-- A module with an action of its own, and an endpoint that matches the route of the action. -/
def markModule : Module where
  name := "mark"
  schema := .ofList [("title", { type := "string" })]
  actions := .ofList [("archive", {})]
  channels :=
    { http := { enabled := true, endpoints := [⟨"POST", "/marks/:id/:verb", "update"⟩] } }

/-- A registry with this one module. -/
def markRegistry : Registry := (({} : Registry).run [.register markModule]).1

/-- A literal segment is preferred to a parameter. -/
theorem literals_beat_parameters :
    Reachable {} markRegistry ∧ ∃ m : Match,
      markRegistry.lookup .http " post " "/marks/9/archive/" = some m ∧
      m.claim.path = "/marks/\x7bid\x7d/archive" ∧
      ∀ x, markRegistry.Fits .http "POST" "/marks/9/archive" x →
        x = m ∨ m.claim.Precedes x.claim := by
  have hr : Reachable {} markRegistry := .run (.start rfl) _
  have hmethod : toUpper (trim " post ") = "POST" := by decide
  have hpath : Path.normalize "/marks/9/archive/" = "/marks/9/archive" := by decide
  have hkey : (markRegistry.paths.on .http).get?
      (Transport.key .http (some "POST") "/marks/9/archive") = none := by decide +kernel
  have hfound : (markRegistry.lookup .http " post " "/marks/9/archive/").map (·.claim.path) =
      some "/marks/\x7bid\x7d/archive" := by decide +kernel
  obtain ⟨m, hm, hclaim⟩ := Option.map_eq_some_iff.1 hfound
  have h := lookup_resolves hr .http " post " "/marks/9/archive/"
  rw [hmethod, hpath] at h
  exact ⟨hr, m, hm, hclaim, ((h.2.1 hkey m).1 hm).2⟩

end Registrar
