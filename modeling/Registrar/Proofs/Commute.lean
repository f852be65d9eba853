import Registrar.Proofs.Compatible
import Registrar.Proofs.Resolution

/-!
# Operations that commute

Operations on modules of different names do not get in each other's way. `Registry.Without r r' n`
says that `r` holds what `r'` holds but for the module `n`; an operation on another name that `r'`
accepts is accepted by `r` and keeps the two related (`Without.perform`), so that a module which is
registered and later taken out might as well never have been there (`unregister_undoes`). Two
modules that are registered one after the other can change places (`accepts_swap`), so that of
registrations the order does not show (`registrations_in_any_order`). Both compare registries
through their modules alone, which determine the rest (`Coherent.ext`).
-/

namespace Registrar

/-- The name of the module that an operation adds or takes out. -/
def Operation.subject? : Operation → Option String
  | register m => some m.name
  | unregister name => some name
  | ask _ => none

namespace Registry

/-! ## Runs without refusals -/

/-- None of the operations is refused when they are done one after the other. -/
def Accepts (r : Registry) (os : List Operation) : Prop :=
  ∀ a ∈ (r.run os).2, a.isRefusal = false

instance (r : Registry) (os : List Operation) : Decidable (r.Accepts os) :=
  inferInstanceAs (Decidable (∀ a ∈ (r.run os).2, a.isRefusal = false))

theorem accepts_nil (r : Registry) : r.Accepts [] := List.forall_mem_nil _

theorem accepts_cons {r : Registry} {o : Operation} {os : List Operation} :
    r.Accepts (o :: os) ↔ (r.perform o).2.isRefusal = false ∧ (r.perform o).1.Accepts os := by
  unfold Accepts
  rw [run_cons, List.forall_mem_cons]

theorem accepts_append {r : Registry} {os os' : List Operation} :
    r.Accepts (os ++ os') ↔ r.Accepts os ∧ (r.run os).1.Accepts os' := by
  unfold Accepts
  rw [run_append, List.forall_mem_append]

theorem register_accepted_iff {r : Registry} {m : Module} :
    (r.perform (.register m)).2.isRefusal = false ↔ ∀ d, r.Meets m d := by
  constructor
  · intro h
    cases hr : r.register m with
    | error e => simp [perform, hr, Outcome.isRefusal] at h
    | ok p => exact (register_eq_ok_iff.1 hr).1
  · intro hm
    simp only [perform, register_of_met hm, Outcome.isRefusal]

theorem perform_register {r : Registry} {m : Module} (hm : ∀ d, r.Meets m d) :
    (r.perform (.register m)).1 = r.enroll (r.propose m).1 := by
  simp only [perform, register_of_met hm]

theorem unregister_accepted_iff {r : Registry} {name : String} :
    (r.perform (.unregister name)).2.isRefusal = false ↔ ∃ e, r.modules.get? name = some e := by
  cases h : r.modules.get? name <;> simp [perform, unregister, h, Outcome.isRefusal]

theorem perform_unregister {r : Registry} {name : String} {e : Registration}
    (he : r.modules.get? name = some e) :
    (r.perform (.unregister name)).1 = r.release name e := by
  simp only [perform, unregister, he]

/-! ## A registry without one module -/

/-- The first registry holds what the second holds but for the module of one name. -/
structure Without (r r' : Registry) (name : String) : Prop where
  config : r.config = r'.config
  modules : ∀ n, r.modules.get? n = if n = name then none else r'.modules.get? n

namespace Without

variable {r r' : Registry} {name : String}

theorem within (h : r.Without r' name) : r.Within r' := by
  refine ⟨h.config, fun n e he => ?_⟩
  rw [h.modules] at he
  split at he
  · cases he
  · exact he

/-- A module that is admitted is what the registry holds more. -/
theorem enroll {m : Module} (hm : ∀ d, r.Meets m d) :
    r.Without (r.enroll (r.propose m).1) m.name := by
  refine ⟨rfl, fun n => ?_⟩
  rw [Coherent.get?_enroll]
  split
  · rename_i hn
    exact hn ▸ hm .newName
  · rfl

/-- Once the module is taken out, nothing tells the registries apart. -/
theorem eq_release (h : r.Coherent) (h' : r'.Coherent) (hw : r.Without r' name)
    {e : Registration} (he : r'.modules.get? name = some e) : r = r'.release name e :=
  h.ext (.release he h') hw.config fun n => by rw [hw.modules, Coherent.get?_release]

theorem perform (h : r.Coherent) (h' : r'.Coherent) (hw : r.Without r' name) {o : Operation}
    (ho : o.subject? ≠ some name) (hok : (r'.perform o).2.isRefusal = false) :
    (r.perform o).2.isRefusal = false ∧ (r.perform o).1.Without (r'.perform o).1 name := by
  cases o with
  | ask q => exact ⟨rfl, hw⟩
  | register m =>
    have hne : m.name ≠ name := fun hn => ho (congrArg some hn)
    have hm' := register_accepted_iff.1 hok
    have hm := h.meets_of_within h' hw.within hm'
    have hsame : (r.propose m).1 = (r'.propose m).1 := by
      unfold propose
      rw [hw.config]
    refine ⟨register_accepted_iff.2 hm, ?_⟩
    rw [perform_register hm, perform_register hm']
    refine ⟨hw.config, fun n => ?_⟩
    rw [Coherent.get?_enroll, Coherent.get?_enroll, hw.modules, hsame]
    exact ite_ite_comm _ _ _ _ fun hn hn' => hne (hn.symm.trans hn')
  | unregister x =>
    have hne : x ≠ name := fun hn => ho (congrArg some hn)
    obtain ⟨e, he'⟩ := unregister_accepted_iff.1 hok
    have he : r.modules.get? x = some e := by rw [hw.modules, if_neg hne, he']
    refine ⟨unregister_accepted_iff.2 ⟨e, he⟩, ?_⟩
    rw [perform_unregister he, perform_unregister he']
    refine ⟨hw.config, fun n => ?_⟩
    rw [Coherent.get?_release, Coherent.get?_release, hw.modules]
    exact ite_ite_comm _ _ _ _ fun hn hn' => hne (hn.symm.trans hn')

theorem run (h : r.Coherent) (h' : r'.Coherent) (hw : r.Without r' name) {os : List Operation}
    (ho : ∀ o ∈ os, o.subject? ≠ some name) (hok : r'.Accepts os) :
    r.Accepts os ∧ (r.run os).1.Without (r'.run os).1 name := by
  induction os generalizing r r' with
  | nil => exact ⟨r.accepts_nil, hw⟩
  | cons o os ih =>
    obtain ⟨ho, hos⟩ := List.forall_mem_cons.1 ho
    obtain ⟨hok, hoks⟩ := accepts_cons.1 hok
    obtain ⟨hacc, hw⟩ := hw.perform h h' ho hok
    obtain ⟨haccs, hw⟩ := ih (h.perform o) (h'.perform o) hw hos hoks
    exact ⟨accepts_cons.2 ⟨hacc, haccs⟩, hw⟩

end Without

theorem Coherent.run {r : Registry} (h : r.Coherent) (os : List Operation) :
    (r.run os).1.Coherent := by
  induction os generalizing r with
  | nil => exact h
  | cons o os ih => exact ih (h.perform o)

/-! ## Registered and taken out -/

/-- Of a run in which a module is registered and later taken out, with only other names in between,
these two operations can be left out: the others are accepted as before, and the same registry is
left. -/
theorem unregister_undoes (config : Config) (m : Module) {before between after : List Operation}
    (hother : ∀ o ∈ between, o.subject? ≠ some m.name)
    (hok : ({ config } : Registry).Accepts
      (before ++ .register m :: (between ++ .unregister m.name :: after))) :
    ({ config } : Registry).Accepts (before ++ (between ++ after)) ∧
      (({ config } : Registry).run (before ++ (between ++ after))).1 =
        (({ config } : Registry).run
          (before ++ .register m :: (between ++ .unregister m.name :: after))).1 := by
  have h := (Coherent.empty config).run before
  obtain ⟨hbefore, hok⟩ := accepts_append.1 hok
  simp only [accepts_append, run_append]
  generalize (({ config } : Registry).run before).1 = r at h hok ⊢
  obtain ⟨hreg, hok⟩ := accepts_cons.1 hok
  obtain ⟨hbetween, hok⟩ := accepts_append.1 hok
  obtain ⟨hunreg, hafter⟩ := accepts_cons.1 hok
  -- the registries with the module and without it, up to where it is taken out
  have hm := register_accepted_iff.1 hreg
  have h' := h.perform (.register m)
  have hw : r.Without (r.perform (.register m)).1 m.name := perform_register hm ▸ .enroll hm
  obtain ⟨hbetween', hw⟩ := hw.run h h' hother hbetween
  obtain ⟨e, he⟩ := unregister_accepted_iff.1 hunreg
  have hsame := hw.eq_release (h.run between) (h'.run between) he
  rw [← perform_unregister he] at hsame
  simp only [run_cons, run_append, hsame, and_true]
  exact ⟨hbefore, hbetween', hafter⟩

/-- A module that is taken out and registered anew, while another one goes and comes. -/
theorem note_undone :
    let before : List Operation := [.register markModule]
    let between : List Operation := [.unregister "mark", .register markModule]
    let after : List Operation := [.register noteModule]
    (∀ o ∈ between, o.subject? ≠ some noteModule.name) ∧
    ({} : Registry).Accepts
      (before ++ .register noteModule :: (between ++ .unregister noteModule.name :: after)) ∧
    ({} : Registry).Accepts (before ++ (between ++ after)) ∧
    (({} : Registry).run (before ++ (between ++ after))).1 =
      (({} : Registry).run (before ++ .register noteModule ::
        (between ++ .unregister noteModule.name :: after))).1 := by
  intro before between after
  have hother : ∀ o ∈ between, o.subject? ≠ some noteModule.name := by decide
  have hok : ({} : Registry).Accepts
      (before ++ .register noteModule :: (between ++ .unregister noteModule.name :: after)) := by
    decide +kernel
  exact ⟨hother, hok, unregister_undoes {} noteModule hother hok⟩

/-! ## Registrations in another order -/

section
variable {r : Registry} (h : r.Coherent) {a b : Module}
include h

/-- What is admitted after a module is admitted before it. -/
theorem Coherent.meets_swap (ha : ∀ d, r.Meets a d)
    (hb : ∀ d, (r.enroll (r.propose a).1).Meets b d) :
    (∀ d, r.Meets b d) ∧ ∀ d, (r.enroll (r.propose b).1).Meets a d := by
  have hra : (r.enroll (r.propose a).1).Coherent := .enroll ha h
  have hb' := h.meets_of_within hra (Without.enroll ha).within hb
  have hrb : (r.enroll (r.propose b).1).Coherent := .enroll hb' h
  obtain ⟨hsound, -, hcomp⟩ := h.meets_iff.1 ha
  obtain ⟨-, hroom, hcomp'⟩ := hra.meets_iff.1 hb
  refine ⟨hb', hrb.meets_iff.2 ⟨hsound, ?_, fun n e he => ?_⟩⟩
  · have hsize := Dict.size_insert (hb' .newName) (r.propose b).1
    have hsize' := Dict.size_insert (ha .newName) (r.propose a).1
    have hroom : (r.modules.insert a.name (r.propose a).1).size < r.config.maxModules := hroom
    exact (hsize.trans hsize'.symm).trans_lt hroom
  · rw [Coherent.get?_enroll] at he
    split at he
    · cases he
      exact (hcomp' a.name (r.propose a).1 (by rw [Coherent.get?_enroll, if_pos rfl])).symm
    · exact hcomp n e he

theorem Coherent.enroll_comm (ha : ∀ d, r.Meets a d)
    (hb : ∀ d, (r.enroll (r.propose a).1).Meets b d) :
    (r.enroll (r.propose b).1).enroll ((r.enroll (r.propose b).1).propose a).1 =
      (r.enroll (r.propose a).1).enroll ((r.enroll (r.propose a).1).propose b).1 := by
  obtain ⟨hb', ha'⟩ := h.meets_swap ha hb
  refine Coherent.ext (.enroll ha' (.enroll hb' h)) (.enroll hb (.enroll ha h)) rfl fun n => ?_
  have hname : (r.enroll (r.propose a).1).modules.get? b.name = none := hb .newName
  rw [Coherent.get?_enroll] at hname
  have hne : b.name ≠ a.name := fun hn => by rw [if_pos hn] at hname; cases hname
  simp only [Coherent.get?_enroll]
  exact ite_ite_comm _ _ _ _ fun hn hn' => hne (hn'.symm.trans hn)

theorem accepts_swap {os : List Operation}
    (hok : r.Accepts (.register a :: .register b :: os)) :
    r.Accepts (.register b :: .register a :: os) ∧
      (r.run (.register b :: .register a :: os)).1 =
        (r.run (.register a :: .register b :: os)).1 := by
  obtain ⟨ha, hok⟩ := accepts_cons.1 hok
  obtain ⟨hb, hok⟩ := accepts_cons.1 hok
  rw [register_accepted_iff] at ha
  rw [perform_register ha] at hb hok
  rw [register_accepted_iff] at hb
  rw [perform_register hb] at hok
  obtain ⟨hb', ha'⟩ := h.meets_swap ha hb
  simp only [accepts_cons, run_cons, perform_register ha, perform_register hb,
    perform_register hb', perform_register ha', h.enroll_comm ha hb, and_true]
  exact ⟨register_accepted_iff.2 hb', register_accepted_iff.2 ha', hok⟩

theorem accepts_perm {ms ms' : List Module} (hp : ms.Perm ms')
    (hok : r.Accepts (ms.map .register)) :
    r.Accepts (ms'.map .register) ∧
      (r.run (ms'.map .register)).1 = (r.run (ms.map .register)).1 := by
  induction hp generalizing r with
  | nil => exact ⟨hok, rfl⟩
  | cons m _ ih =>
    obtain ⟨hm, hok⟩ := accepts_cons.1 hok
    obtain ⟨hok, hsame⟩ := ih (h.perform (.register m)) hok
    exact ⟨accepts_cons.2 ⟨hm, hok⟩, hsame⟩
  | swap a b ms => exact accepts_swap h hok
  | trans _ _ ih ih' =>
    obtain ⟨hok, hsame⟩ := ih h hok
    obtain ⟨hok, hsame'⟩ := ih' h hok
    exact ⟨hok, hsame'.trans hsame⟩

end

/-- Modules that are all admitted one after the other are all admitted in any other order, and
afterwards every query has the same answer. -/
theorem registrations_in_any_order (config : Config) {ms ms' : List Module} (hp : ms.Perm ms')
    (hok : ({ config } : Registry).Accepts (ms.map .register)) :
    ({ config } : Registry).Accepts (ms'.map .register) ∧
      ∀ q, (({ config } : Registry).run (ms'.map .register)).1.answer q =
        (({ config } : Registry).run (ms.map .register)).1.answer q := by
  obtain ⟨hok, hsame⟩ := accepts_perm (.empty config) hp hok
  exact ⟨hok, fun q => by rw [hsame]⟩

/-- Two modules, in either order. -/
theorem mark_before_note :
    ({} : Registry).Accepts ([noteModule, markModule].map .register) ∧
    ({} : Registry).Accepts ([markModule, noteModule].map .register) ∧
    ∀ q, (({} : Registry).run ([markModule, noteModule].map .register)).1.answer q =
      (({} : Registry).run ([noteModule, markModule].map .register)).1.answer q := by
  have hok : ({} : Registry).Accepts ([noteModule, markModule].map .register) := by
    decide +kernel
  exact ⟨hok, registrations_in_any_order {} (.swap _ _ _) hok⟩

end Registry

end Registrar
