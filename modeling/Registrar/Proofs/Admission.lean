import Registrar.Proofs.Distinct
import Registrar.Proofs.Key
import Registrar.Proofs.Run
import Mathlib.Order.WellFounded

/-!
# What a registry demands of a module

`Registry.Meets r m d` says that the module `m` meets the demand `d` of the registry `r`. A module
is admitted exactly if it meets all demands (`register_eq_ok_iff`); otherwise the first one in the
order of `Demand.place` that it does not meet gives the error (`register_of_unmet`). What is refused
could as well not have been asked (`register_decided`).
-/

namespace Registrar

/-! ## Demands -/

/-- What registering demands of a module. -/
inductive Demand
  /-- It is no capability declaration. -/
  | ordinary
  /-- No module of its name is registered. -/
  | newName
  /-- Its declaration is valid. -/
  | valid
  /-- There is room for one module more. -/
  | room
  /-- It makes no more claims than a module may. -/
  | fewClaims
  /-- No module owns its table. -/
  | freeTable
  /-- Its claims on one address are for one action. -/
  | agreement
  /-- No module claims an address that it claims. -/
  | freePaths
  deriving DecidableEq, Repr

/-- The place in the order in which demands are checked. -/
def Demand.place : Demand → Nat
  | ordinary => 0
  | newName => 1
  | valid => 2
  | room => 3
  | fewClaims => 4
  | freeTable => 5
  | agreement => 6
  | freePaths => 7

/-- The code of the error where the demand is not met. -/
def Demand.code : Demand → ErrorCode
  | ordinary => .capabilityDeclaration
  | newName => .duplicateModule
  | valid => .validationFailed
  | room | fewClaims => .limitExceeded
  | freeTable => .tableConflict
  | agreement | freePaths => .pathConflict

namespace Registry

/-- The claims that the module makes in this registry, repeated ones included. -/
def derived (r : Registry) (m : Module) : List Claim := m.claims r.config.endpoints m.plural

/-- The number of addresses that the module claims. -/
def addressCount (r : Registry) (m : Module) : Nat := ((r.derived m).map (·.key)).toFinset.card

/-- Whether the module meets a demand of the registry. -/
def Meets (r : Registry) (m : Module) : Demand → Prop
  | .ordinary => m.isCapability = false
  | .newName => r.modules.get? m.name = none
  | .valid => m.report? = none
  | .room => r.size < r.config.maxModules
  | .fewClaims => r.addressCount m ≤ r.config.maxClaims
  | .freeTable => r.tables.get? m.table = none
  | .agreement => ∀ c ∈ r.derived m, ∀ d ∈ r.derived m, c.key = d.key → c.action = d.action
  | .freePaths => ∀ c ∈ r.derived m, (r.paths.on c.transport).get? c.key = none

/-- Whether the error tells that the module does not meet the demand. -/
def Blames (r : Registry) (m : Module) (e : RegistryError) : Demand → Prop
  | .ordinary => e = .capability m.displayName
  | .newName => e = .duplicate m.name
  | .valid => ∃ report, m.report? = some report ∧ e = .invalid report
  | .room => e = .limit (.modules r.config.maxModules)
  | .fewClaims => e = .limit (.claims m.name (r.addressCount m) r.config.maxClaims)
  | .freeTable => ∃ owner, r.tables.get? m.table = some owner ∧ e = .tableTaken m.name m.table owner
  | .agreement | .freePaths => ∃ conflicts, conflicts ≠ [] ∧ e = .pathsTaken m.name conflicts

theorem Blames.code {r : Registry} {m : Module} {e : RegistryError} {d : Demand}
    (h : r.Blames m e d) : e.code = d.code := by
  cases d with
  | ordinary | newName | room | fewClaims =>
    obtain rfl := h
    rfl
  | valid | freeTable | agreement | freePaths =>
    obtain ⟨_, _, rfl⟩ := h
    rfl

/-! ## What is proposed -/

theorem propose_claims (r : Registry) (m : Module) :
    (r.propose m).1.claims = (distinctClaims (r.derived m)).1 := rfl

theorem length_propose (r : Registry) (m : Module) :
    (r.propose m).1.claims.length = r.addressCount m :=
  length_distinctClaims _

theorem conflicts_eq_nil_iff (r : Registry) (cs : List Claim) :
    r.conflicts cs = [] ↔ ∀ c ∈ cs, (r.paths.on c.transport).get? c.key = none := by
  simp [conflicts, List.filterMap_eq_nil_iff]

theorem own_conflicts_eq_nil_iff (r : Registry) (m : Module) :
    (r.propose m).2 = [] ↔ r.Meets m .agreement :=
  distinctClaims_conflicts_eq_nil_iff _

/-- A claim that repeats a key has the address of the one that is kept. -/
theorem proposed_conflicts_eq_nil_iff (r : Registry) (m : Module) :
    r.conflicts (r.propose m).1.claims = [] ↔ r.Meets m .freePaths := by
  rw [conflicts_eq_nil_iff, propose_claims]
  refine ⟨fun h c hc => ?_, fun h c hc => h c ((distinctClaims_sublist _).subset hc)⟩
  obtain ⟨d, hd, hk⟩ := exists_distinct_key hc
  rw [← Claim.transport_eq_of_key_eq hk, ← hk]
  exact h d hd

/-! ## Registering -/

theorem register_eq (r : Registry) (m : Module) :
    r.register m =
      if m.isCapability then .error (.capability m.displayName)
      else if r.modules.contains m.name then .error (.duplicate m.name)
      else match m.report? with
        | some report => .error (.invalid report)
        | none =>
          if r.config.maxModules ≤ r.modules.size then
            .error (.limit (.modules r.config.maxModules))
          else if r.config.maxClaims < (r.propose m).1.claims.length then
            .error (.limit (.claims m.name (r.propose m).1.claims.length r.config.maxClaims))
          else match r.tables.get? m.table with
            | some owner => .error (.tableTaken m.name m.table owner)
            | none =>
              match (r.propose m).2 ++ r.conflicts (r.propose m).1.claims with
              | [] => .ok (r.enroll (r.propose m).1, (r.propose m).1)
              | conflicts => .error (.pathsTaken m.name conflicts) :=
  rfl

/-- A module that passes the first three checks. -/
theorem register_of_declared {r : Registry} {m : Module} (h0 : r.Meets m .ordinary)
    (h1 : r.Meets m .newName) (h2 : r.Meets m .valid) :
    r.register m =
      if r.config.maxModules ≤ r.modules.size then .error (.limit (.modules r.config.maxModules))
      else if r.config.maxClaims < r.addressCount m then
        .error (.limit (.claims m.name (r.addressCount m) r.config.maxClaims))
      else match r.tables.get? m.table with
        | some owner => .error (.tableTaken m.name m.table owner)
        | none =>
          match (r.propose m).2 ++ r.conflicts (r.propose m).1.claims with
          | [] => .ok (r.enroll (r.propose m).1, (r.propose m).1)
          | conflicts => .error (.pathsTaken m.name conflicts) := by
  have h0 : m.isCapability = false := h0
  have h1 : r.modules.contains m.name = false := Dict.contains_eq_false_iff.2 h1
  have h2 : m.report? = none := h2
  rw [register_eq, h0, h1, h2, length_propose]
  rfl

/-- A module that passes all checks but those for conflicts. -/
theorem register_of_fitting {r : Registry} {m : Module}
    (h : ∀ d : Demand, d.place < Demand.agreement.place → r.Meets m d) :
    r.register m =
      match (r.propose m).2 ++ r.conflicts (r.propose m).1.claims with
      | [] => .ok (r.enroll (r.propose m).1, (r.propose m).1)
      | conflicts => .error (.pathsTaken m.name conflicts) := by
  have h3 : r.modules.size < r.config.maxModules := h .room (by decide)
  have h4 : r.addressCount m ≤ r.config.maxClaims := h .fewClaims (by decide)
  have h5 : r.tables.get? m.table = none := h .freeTable (by decide)
  rw [register_of_declared (h .ordinary (by decide)) (h .newName (by decide))
    (h .valid (by decide)), if_neg (Nat.not_le.2 h3), if_neg (Nat.not_lt.2 h4), h5]

theorem register_of_conflicts {r : Registry} {m : Module}
    (h : ∀ d : Demand, d.place < Demand.agreement.place → r.Meets m d)
    (hc : (r.propose m).2 ++ r.conflicts (r.propose m).1.claims ≠ []) :
    ∃ e, r.register m = .error e ∧
      ∃ conflicts, conflicts ≠ [] ∧ e = .pathsTaken m.name conflicts := by
  rw [register_of_fitting h]
  cases hl : (r.propose m).2 ++ r.conflicts (r.propose m).1.claims with
  | nil => exact absurd hl hc
  | cons c cs => exact ⟨_, rfl, c :: cs, by simp, rfl⟩

theorem register_of_met {r : Registry} {m : Module} (h : ∀ d, r.Meets m d) :
    r.register m = .ok (r.enroll (r.propose m).1, (r.propose m).1) := by
  rw [register_of_fitting fun d _ => h d, (own_conflicts_eq_nil_iff r m).2 (h .agreement),
    (proposed_conflicts_eq_nil_iff r m).2 (h .freePaths)]
  rfl

/-- The first demand that the module does not meet gives the error. -/
theorem register_of_unmet {r : Registry} {m : Module} {d : Demand} (hd : ¬ r.Meets m d)
    (hbefore : ∀ d' : Demand, d'.place < d.place → r.Meets m d') :
    ∃ e, r.register m = .error e ∧ r.Blames m e d := by
  cases d with
  | ordinary =>
    have h0 : m.isCapability = true := by simpa [Meets] using hd
    exact ⟨_, by rw [register_eq, if_pos h0], rfl⟩
  | newName =>
    have h0 : m.isCapability = false := hbefore .ordinary (by decide)
    have h1 : r.modules.contains m.name = true := by
      rw [← Bool.not_eq_false, Dict.contains_eq_false_iff]
      exact hd
    exact ⟨_, by rw [register_eq, h0, h1]; rfl, rfl⟩
  | valid =>
    have h0 : m.isCapability = false := hbefore .ordinary (by decide)
    have h1 : r.modules.contains m.name = false :=
      Dict.contains_eq_false_iff.2 (hbefore .newName (by decide))
    obtain ⟨report, h2⟩ := Option.ne_none_iff_exists'.1 hd
    exact ⟨_, by rw [register_eq, h0, h1, h2]; rfl, report, h2, rfl⟩
  | room =>
    have h3 : r.config.maxModules ≤ r.modules.size := Nat.not_lt.1 hd
    refine ⟨_, ?_, rfl⟩
    rw [register_of_declared (hbefore .ordinary (by decide)) (hbefore .newName (by decide))
      (hbefore .valid (by decide)), if_pos h3]
  | fewClaims =>
    have h3 : r.modules.size < r.config.maxModules := hbefore .room (by decide)
    have h4 : r.config.maxClaims < r.addressCount m := Nat.not_le.1 hd
    refine ⟨_, ?_, rfl⟩
    rw [register_of_declared (hbefore .ordinary (by decide)) (hbefore .newName (by decide))
      (hbefore .valid (by decide)), if_neg (Nat.not_le.2 h3), if_pos h4]
  | freeTable =>
    have h3 : r.modules.size < r.config.maxModules := hbefore .room (by decide)
    have h4 : r.addressCount m ≤ r.config.maxClaims := hbefore .fewClaims (by decide)
    obtain ⟨owner, h5⟩ := Option.ne_none_iff_exists'.1 hd
    refine ⟨_, ?_, owner, h5, rfl⟩
    rw [register_of_declared (hbefore .ordinary (by decide)) (hbefore .newName (by decide))
      (hbefore .valid (by decide)), if_neg (Nat.not_le.2 h3), if_neg (Nat.not_lt.2 h4), h5]
  | agreement =>
    exact register_of_conflicts hbefore fun h =>
      hd ((own_conflicts_eq_nil_iff r m).1 (List.append_eq_nil_iff.1 h).1)
  | freePaths =>
    exact register_of_conflicts
      (fun d' h => hbefore d' (h.trans (by decide))) fun h =>
      hd ((proposed_conflicts_eq_nil_iff r m).1 (List.append_eq_nil_iff.1 h).2)

/-- Where a demand is not met, there is a first one. -/
theorem exists_first_unmet {r : Registry} {m : Module} (h : ¬ ∀ d, r.Meets m d) :
    ∃ d, ¬ r.Meets m d ∧ ∀ d' : Demand, d'.place < d.place → r.Meets m d' := by
  obtain ⟨d, hd⟩ := not_forall.1 h
  obtain ⟨d, hd, hmin⟩ := (measure Demand.place).wf.has_min {d | ¬ r.Meets m d} ⟨d, hd⟩
  exact ⟨d, hd, fun d' hlt => by_contra fun hn => hmin d' hn hlt⟩

theorem register_eq_error_iff {r : Registry} {m : Module} :
    (∃ e, r.register m = .error e) ↔ ¬ ∀ d, r.Meets m d := by
  constructor
  · rintro ⟨e, he⟩ hm
    rw [register_of_met hm] at he
    cases he
  · intro hn
    obtain ⟨d, hd, hbefore⟩ := exists_first_unmet hn
    obtain ⟨e, he, -⟩ := register_of_unmet hd hbefore
    exact ⟨e, he⟩

/-- To blame for a refusal is the first demand that is not met. -/
theorem exists_blamed {r : Registry} {m : Module} {e : RegistryError}
    (h : r.register m = .error e) :
    ∃ d, ¬ r.Meets m d ∧ (∀ d' : Demand, d'.place < d.place → r.Meets m d') ∧ r.Blames m e d := by
  obtain ⟨d, hd, hbefore⟩ := exists_first_unmet (register_eq_error_iff.1 ⟨e, h⟩)
  obtain ⟨e', he, hblame⟩ := register_of_unmet hd hbefore
  rw [h] at he
  cases he
  exact ⟨d, hd, hbefore, hblame⟩

theorem register_eq_ok_iff {r r' : Registry} {m : Module} {e : Registration} :
    r.register m = .ok (r', e) ↔
      (∀ d, r.Meets m d) ∧ e = (r.propose m).1 ∧ r' = r.enroll (r.propose m).1 := by
  constructor
  · intro h
    have hm : ∀ d, r.Meets m d := by
      by_contra hn
      obtain ⟨e', he⟩ := register_eq_error_iff.2 hn
      rw [h] at he
      cases he
    rw [register_of_met hm] at h
    cases h
    exact ⟨hm, rfl, rfl⟩
  · rintro ⟨hm, rfl, rfl⟩
    exact register_of_met hm

/-! ## What decides -/

/-- The demands decide whether a module is admitted and for which reason it is not. A refusal leaves
the registry as it was, so that a run goes the same way without the operations refused in it. -/
theorem register_decided (r : Registry) (m : Module) :
    ((∃ r' e, r.register m = .ok (r', e)) ↔ ∀ d, r.Meets m d) ∧
    (∀ d, ¬ r.Meets m d → (∀ d' : Demand, d'.place < d.place → r.Meets m d') →
      ∃ e, r.register m = .error e ∧ r.Blames m e d) ∧
    (∀ o, (r.perform o).2.isRefusal = true → (r.perform o).1 = r) ∧
    ∀ os, (r.run os).2.length = os.length ∧
      r.run ((r.kept os).map (·.1)) = ((r.run os).1, (r.kept os).map (·.2)) := by
  refine ⟨⟨?_, fun hm => ⟨_, _, register_of_met hm⟩⟩, fun d => register_of_unmet,
    fun o => perform_eq_of_isRefusal, fun os => ⟨r.length_run os, r.run_kept os⟩⟩
  rintro ⟨r', e, h⟩
  exact (register_eq_ok_iff.1 h).1

end Registry

/-- A module with one field, with an endpoint of its own over HTTP and with commands. -/
def noteModule : Module where
  name := "note"
  schema := .ofList [("title", { type := "string" })]
  channels :=
    { http := { enabled := true, endpoints := [⟨"GET", "/A:x", "list"⟩] }
      cli := { enabled := true } }

/-- A registry with this one module. -/
def noteRegistry : Registry := (({} : Registry).run [.register noteModule]).1

/-- A module that is registered is refused for its name, before its table and its paths count. -/
theorem name_before_table :
    ¬ noteRegistry.Meets noteModule .newName ∧ ¬ noteRegistry.Meets noteModule .freeTable ∧
      ∃ e, noteRegistry.register noteModule = .error e ∧
        noteRegistry.Blames noteModule e .newName := by
  have hname : ¬ noteRegistry.modules.get? "note" = none := by decide +kernel
  have htable : ¬ noteRegistry.tables.get? noteModule.table = none := by decide +kernel
  refine ⟨hname, htable, (Registry.register_decided noteRegistry noteModule).2.1 .newName hname ?_⟩
  intro d hd
  cases d with
  | ordinary => exact rfl
  | _ => exact absurd hd (by decide)

end Registrar
