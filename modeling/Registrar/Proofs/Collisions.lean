import Registrar.Proofs.Compatible

/-!
# What a refusal for conflicts reports

A module that is refused for conflicts of its paths (`register_eq_pathsTaken`) is told of conflicts
among its own claims and of conflicts with what is registered. Of the claims that share a key the
first alone is compared with the others and with the index (`mem_reported_iff`). Each entry of the
report is thus a collision (`collides_of_reported`), and each address that is contested is reported
(`key_reported`); but of the collisions at an address those alone are in which the first action
takes part (`collisions_reported_iff`).
-/

namespace Registrar

/-! ## Collisions -/

/-- The action of the first of the claims with a key. -/
def firstAction? (cs : List Claim) (k : String) : Option String :=
  (cs.find? (·.key = k)).map (·.action)

theorem firstAction?_eq_some_iff {cs : List Claim} {k a : String} :
    firstAction? cs k = some a ↔ ∃ first, cs.find? (·.key = k) = some first ∧ first.action = a :=
  Option.map_eq_some_iff

/-- The conflict is one at this key between these two. -/
structure Conflict.IsBetween (x : Conflict) (k : String) (existing incoming : Owner) : Prop where
  key : x.key = k
  existing : x.existing = existing
  incoming : x.incoming = incoming

namespace Registry

/-- A claim that the module makes stands under a key that the index holds for another. -/
def Intrudes (r : Registry) (m : Module) (c e : Claim) : Prop :=
  c ∈ r.derived m ∧ (r.paths.on c.transport).get? c.key = some e

/-- Two claims that the module makes are for different actions at one key. -/
structure Disagree (r : Registry) (m : Module) (c d : Claim) : Prop where
  left : c ∈ r.derived m
  right : d ∈ r.derived m
  key : c.key = d.key
  action : c.action ≠ d.action

/-! ## Refusals for conflicts -/

/-- The conflicts that a module meets: among its own claims, and with those that are registered. -/
def reported (r : Registry) (m : Module) : List Conflict :=
  (r.propose m).2 ++ r.conflicts (r.propose m).1.claims

theorem register_eq_pathsTaken {r : Registry} {m : Module} {n : String} {xs : List Conflict}
    (h : r.register m = .error (.pathsTaken n xs)) :
    (∀ d : Demand, d.place < Demand.agreement.place → r.Meets m d) ∧ n = m.name ∧
      xs = r.reported m := by
  obtain ⟨d, -, hbefore, hblame⟩ := exists_blamed h
  have hcode : ErrorCode.pathConflict = d.code := hblame.code
  have hplace : Demand.agreement.place ≤ d.place := by
    cases d with
    | agreement | freePaths => decide
    | _ => cases hcode
  have hmet := fun d' (hlt : Demand.place d' < _) => hbefore d' (hlt.trans_le hplace)
  rw [register_of_fitting hmet] at h
  split at h
  · cases h
  · cases h
    exact ⟨hmet, rfl, rfl⟩

theorem owner_of_derived {r : Registry} {m : Module} {c : Claim} (h : c ∈ r.derived m) :
    c.owner = ⟨m.name, c.action⟩ := by
  unfold Claim.owner
  rw [Module.claim_module h]

theorem mem_reported_iff {r : Registry} {m : Module} {x : Conflict} :
    x ∈ r.reported m ↔
      (∃ c ∈ r.derived m, ∃ first, (r.derived m).find? (·.key = c.key) = some first ∧
        first.action ≠ c.action ∧ x = c.conflict first.owner) ∨
      ∃ first e, (r.derived m).find? (·.key = first.key) = some first ∧
        (r.paths.on first.transport).get? first.key = some e ∧ x = first.conflict e.owner := by
  have hown : (r.propose m).2 = (r.derived m).filterMap (Claim.clash? (r.derived m)) :=
    distinctClaims_conflicts _
  rw [reported, List.mem_append, hown]
  simp only [conflicts, List.mem_filterMap, Claim.clash?_eq_some_iff, propose_claims,
    mem_distinctClaims_iff, Option.map_eq_some_iff]
  refine or_congr_right ⟨?_, ?_⟩
  · rintro ⟨first, hf, e, he, rfl⟩
    exact ⟨first, e, hf, he, rfl⟩
  · rintro ⟨first, e, hf, he, rfl⟩
    exact ⟨first, hf, e, he, rfl⟩

/-! ## What is reported -/

section
variable {r : Registry} {m : Module}

/-- Each entry is a collision. -/
theorem collides_of_reported {x : Conflict} (hx : x ∈ r.reported m) :
    (∃ c e, r.Intrudes m c e ∧ x = c.conflict e.owner) ∨
      ∃ c d, r.Disagree m c d ∧ x = d.conflict c.owner := by
  rcases mem_reported_iff.1 hx with ⟨c, hc, first, hf, ha, rfl⟩ | ⟨first, e, hf, he, rfl⟩
  · obtain ⟨hm, hk⟩ := of_find?_key hf
    exact .inr ⟨first, c, ⟨hm, hc, hk, ha⟩, rfl⟩
  · exact .inl ⟨first, e, ⟨(of_find?_key hf).1, he⟩, rfl⟩

theorem intrusion_reported {c e : Claim} (hc : r.Intrudes m c e)
    (hfirst : firstAction? (r.derived m) c.key = some c.action) :
    ∃ x ∈ r.reported m, x.IsBetween c.key e.owner ⟨m.name, c.action⟩ := by
  obtain ⟨first, hf, ha⟩ := firstAction?_eq_some_iff.1 hfirst
  obtain ⟨hm, hk⟩ := of_find?_key hf
  have he : (r.paths.on first.transport).get? first.key = some e := by
    rw [Claim.transport_eq_of_key_eq hk, hk, hc.2]
  refine ⟨first.conflict e.owner, mem_reported_iff.2 (.inr ⟨first, e, ?_, he, rfl⟩), hk, rfl, ?_⟩
  · rw [hk, hf]
  · exact (owner_of_derived hm).trans (by rw [ha])

theorem disagreement_reported {c d : Claim} (hcd : r.Disagree m c d)
    (hfirst : firstAction? (r.derived m) c.key = some c.action) :
    ∃ x ∈ r.reported m, x.IsBetween c.key ⟨m.name, c.action⟩ ⟨m.name, d.action⟩ := by
  obtain ⟨first, hf, ha⟩ := firstAction?_eq_some_iff.1 hfirst
  have hown := owner_of_derived (of_find?_key hf).1
  rw [hcd.key] at hf
  refine ⟨d.conflict first.owner, mem_reported_iff.2 (.inl ⟨d, hcd.right, first, hf, ?_, rfl⟩),
    hcd.key.symm, ?_, owner_of_derived hcd.right⟩
  · exact ha.symm ▸ hcd.action
  · exact hown.trans (by rw [ha])

/-- At each address that is contested something is reported. -/
theorem key_reported {c : Claim} (hc : (∃ e, r.Intrudes m c e) ∨ ∃ d, r.Disagree m c d) :
    ∃ x ∈ r.reported m, x.key = c.key := by
  have hmem : c ∈ r.derived m := hc.elim (fun ⟨_, h⟩ => h.1) fun ⟨_, h⟩ => h.left
  obtain ⟨first, hm, hf, hk⟩ := exists_first_key hmem
  have hfirst : firstAction? (r.derived m) c.key = some first.action :=
    firstAction?_eq_some_iff.2 ⟨first, hf, rfl⟩
  rcases hc with ⟨e, -, he⟩ | ⟨d, hcd⟩
  · -- the first claim with the key intrudes as well
    have he' : r.Intrudes m first e := ⟨hm, by rw [Claim.transport_eq_of_key_eq hk, hk, he]⟩
    obtain ⟨x, hx, hb⟩ := intrusion_reported he' (by rw [hk, hfirst])
    exact ⟨x, hx, hb.key.trans hk⟩
  · by_cases ha : first.action = c.action
    · obtain ⟨x, hx, hb⟩ := disagreement_reported hcd (by rw [hfirst, ha])
      exact ⟨x, hx, hb.key⟩
    · obtain ⟨x, hx, hb⟩ := disagreement_reported ⟨hm, hmem, hk, ha⟩ (by rw [hk, hfirst])
      exact ⟨x, hx, hb.key.trans hk⟩

/-! ## What is not reported -/

/-- What the index holds belongs to other modules than one of a new name. -/
theorem Coherent.index_module_ne (h : r.Coherent) (hm : r.Meets m .newName) {t : Transport}
    {k : String} {e : Claim} (he : (r.paths.on t).get? k = some e) : e.module ≠ m.name := by
  obtain ⟨-, reg, hreg, hc⟩ := (h.paths t k e).1 he
  exact fun hn => h.meets_newName_iff.1 hm _ reg hreg ((h.proper _ reg hreg).name.trans hn)

/-- In each entry the first action of its key takes part: as the existing owner where that is the
module itself, and else as the incoming one. -/
theorem first_of_reported (h : r.Coherent) (hm : r.Meets m .newName) {x : Conflict}
    (hx : x ∈ r.reported m) :
    (x.existing.module = m.name → firstAction? (r.derived m) x.key = some x.existing.action) ∧
      (x.existing.module ≠ m.name →
        firstAction? (r.derived m) x.key = some x.incoming.action) := by
  rcases mem_reported_iff.1 hx with ⟨c, hc, first, hf, ha, rfl⟩ | ⟨first, e, hf, he, rfl⟩
  · refine ⟨fun _ => firstAction?_eq_some_iff.2 ⟨first, hf, rfl⟩, fun hne => ?_⟩
    exact absurd (Module.claim_module (of_find?_key hf).1) hne
  · refine ⟨fun hown => absurd hown (h.index_module_ne hm he), fun _ => ?_⟩
    exact firstAction?_eq_some_iff.2 ⟨first, hf, rfl⟩

end

end Registry

/-- Of a module that is refused for conflicts each entry of the report is a collision, with what is
registered or between two actions of the module, and each contested address is reported. The
collision of an action with what is registered is reported exactly if it is the first action that
the module claims the address for, and that of two actions exactly if one of them is. -/
theorem collisions_reported_iff {config : Config} {r : Registry} (hr : Reachable config r)
    {m : Module} {n : String} {xs : List Conflict}
    (hreg : r.register m = .error (.pathsTaken n xs)) :
    n = m.name ∧
    (∀ x ∈ xs, (∃ c e, r.Intrudes m c e ∧ x = c.conflict e.owner) ∨
      ∃ c d, r.Disagree m c d ∧ x = d.conflict c.owner) ∧
    (∀ c, (∃ e, r.Intrudes m c e) ∨ (∃ d, r.Disagree m c d) → ∃ x ∈ xs, x.key = c.key) ∧
    (∀ c e, r.Intrudes m c e →
      ((∃ x ∈ xs, x.IsBetween c.key e.owner ⟨m.name, c.action⟩) ↔
        firstAction? (r.derived m) c.key = some c.action)) ∧
    ∀ c d, r.Disagree m c d →
      ((∃ x ∈ xs, x.IsBetween c.key ⟨m.name, c.action⟩ ⟨m.name, d.action⟩ ∨
          x.IsBetween c.key ⟨m.name, d.action⟩ ⟨m.name, c.action⟩) ↔
        firstAction? (r.derived m) c.key = some c.action ∨
          firstAction? (r.derived m) c.key = some d.action) := by
  obtain ⟨hmet, hn, rfl⟩ := Registry.register_eq_pathsTaken hreg
  have hnew : r.Meets m .newName := hmet .newName (by decide)
  have hpart := fun {x} => Registry.first_of_reported (x := x) hr.coherent hnew
  refine ⟨hn, fun x => Registry.collides_of_reported, fun c => Registry.key_reported,
    fun c e hc => ⟨?_, Registry.intrusion_reported hc⟩, fun c d hcd => ⟨?_, ?_⟩⟩
  · rintro ⟨x, hx, hb⟩
    have hne : x.existing.module ≠ m.name := by
      rw [hb.existing]
      exact hr.coherent.index_module_ne hnew hc.2
    have hfirst := (hpart hx).2 hne
    rwa [hb.key, hb.incoming] at hfirst
  · rintro ⟨x, hx, hb | hb⟩
    · have hfirst := (hpart hx).1 (by rw [hb.existing])
      rw [hb.key, hb.existing] at hfirst
      exact .inl hfirst
    · have hfirst := (hpart hx).1 (by rw [hb.existing])
      rw [hb.key, hb.existing] at hfirst
      exact .inr hfirst
  · rintro (hfirst | hfirst)
    · obtain ⟨x, hx, hb⟩ := Registry.disagreement_reported hcd hfirst
      exact ⟨x, hx, .inl hb⟩
    · have hdc : r.Disagree m d c := ⟨hcd.right, hcd.left, hcd.key.symm, hcd.action.symm⟩
      obtain ⟨x, hx, hb⟩ := Registry.disagreement_reported hdc (by rw [← hcd.key, hfirst])
      exact ⟨x, hx, .inr (hcd.key ▸ hb)⟩

/-- A module that claims `GET /x` for some actions, and nothing else where explicit endpoints stand
in the place of the implicit routes. -/
def crossingModule (name : String) (actions : List String) : Module where
  name := name
  schema := .ofList [("title", { type := "string" })]
  channels := { http := { enabled := true, endpoints := actions.map (⟨"GET", "/x", ·⟩) } }

/-- A registry with one such module. -/
def crossingRegistry : Registry :=
  (({ config := { endpoints := .replaceImplicit } } : Registry).run
    [.register (crossingModule "shelf" ["list"])]).1

/-- The conflicts of a module that claims the address for another action too. -/
def crossingConflicts : List Conflict :=
  [⟨.http, some "GET", "/x", "http:GET:/x", ⟨"book", "list"⟩, ⟨"book", "get"⟩⟩,
    ⟨.http, some "GET", "/x", "http:GET:/x", ⟨"shelf", "list"⟩, ⟨"book", "list"⟩⟩]

theorem crossing_refused : crossingRegistry.register (crossingModule "book" ["list", "get"]) =
    .error (.pathsTaken "book" crossingConflicts) := by
  decide +kernel

/-- The first action is reported against the module that is registered. -/
theorem first_crossing_reported :
    Reachable { endpoints := .replaceImplicit } crossingRegistry ∧
      crossingRegistry.register (crossingModule "book" ["list", "get"]) =
        .error (.pathsTaken "book" crossingConflicts) ∧
      crossingRegistry.Intrudes (crossingModule "book" ["list", "get"])
        (.http "GET" "/x" "book" "list") (.http "GET" "/x" "shelf" "list") ∧
      ∃ x ∈ crossingConflicts, x.IsBetween "http:GET:/x" ⟨"shelf", "list"⟩ ⟨"book", "list"⟩ := by
  have hr : Reachable { endpoints := .replaceImplicit } crossingRegistry := .run (.start rfl) _
  have hc : crossingRegistry.Intrudes (crossingModule "book" ["list", "get"])
      (.http "GET" "/x" "book" "list") (.http "GET" "/x" "shelf" "list") :=
    ⟨by decide +kernel, by decide +kernel⟩
  exact ⟨hr, crossing_refused, hc,
    ((collisions_reported_iff hr crossing_refused).2.2.2.1 _ _ hc).2 (by decide +kernel)⟩

/-- The other action is not, though it collides with that module as well. -/
theorem second_crossing_unreported :
    Reachable { endpoints := .replaceImplicit } crossingRegistry ∧
      crossingRegistry.register (crossingModule "book" ["list", "get"]) =
        .error (.pathsTaken "book" crossingConflicts) ∧
      crossingRegistry.Intrudes (crossingModule "book" ["list", "get"])
        (.http "GET" "/x" "book" "get") (.http "GET" "/x" "shelf" "list") ∧
      ∀ x ∈ crossingConflicts, ¬ x.IsBetween "http:GET:/x" ⟨"shelf", "list"⟩ ⟨"book", "get"⟩ := by
  refine ⟨.run (.start rfl) _, crossing_refused, ⟨by decide +kernel, by decide +kernel⟩, ?_⟩
  rintro x hx ⟨-, hexisting, hincoming⟩
  have hnone : ∀ x ∈ crossingConflicts,
      ¬ (x.existing = ⟨"shelf", "list"⟩ ∧ x.incoming = ⟨"book", "get"⟩) := by decide
  exact hnone x hx ⟨hexisting, hincoming⟩

end Registrar
