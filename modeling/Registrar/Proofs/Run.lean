import Registrar.Registry

/-!
# Runs of a registry

`Operation` is what a registry can be asked to do: register a module, unregister one, or answer a
`Query`. `Registry.perform` does one operation and gives the `Outcome` beside the registry that is
left; an operation that is refused leaves the registry it was given. `Registry.run` performs a list
of operations, of which those that were refused can be left out (`run_kept`). `Reachable config r`
says that `r` comes of an empty registry with an admissible configuration by some operations.
-/

namespace Registrar

/-! ## Operations -/

/-- A question about what is registered. -/
inductive Query
  | get (name : String)
  | contains (name : String)
  | names
  | all
  | size
  | isEmpty
  | claimCount
  | tableOwner (table : String)
  | claims (t : Transport)
  | httpPaths
  | cliPaths
  | lookup (t : Transport) (method path : String)
  deriving DecidableEq, Repr

/-- The answer to a query. -/
inductive Answer
  | registration (e : Option Registration)
  | truth (b : Bool)
  | names (names : List String)
  | registrations (es : List Registration)
  | count (n : Nat)
  | owner (name : Option String)
  | claims (cs : List Claim)
  | resolved (m : Option Match)
  deriving DecidableEq

/-- Something that a registry is asked to do. -/
inductive Operation
  | register (m : Module)
  | unregister (name : String)
  | ask (q : Query)
  deriving DecidableEq

/-- What comes of an operation. -/
inductive Outcome
  | admitted (e : Registration)
  | removed (e : Registration)
  | refused (e : RegistryError)
  | answered (a : Answer)
  deriving DecidableEq

/-- Whether the operation failed. -/
def Outcome.isRefusal : Outcome → Bool
  | refused _ => true
  | _ => false

namespace Registry

/-- The answer to a query. -/
def answer (r : Registry) : Query → Answer
  | .get name => .registration (r.get? name)
  | .contains name => .truth (r.contains name)
  | .names => .names r.names
  | .all => .registrations r.all
  | .size => .count r.size
  | .isEmpty => .truth r.isEmpty
  | .claimCount => .count r.claimCount
  | .tableOwner table => .owner (r.tableOwner? table)
  | .claims t => .claims (r.claims t)
  | .httpPaths => .claims r.httpPaths
  | .cliPaths => .claims r.cliPaths
  | .lookup t method path => .resolved (r.lookup t method path)

/-- Does one operation: the registry that is left, and what comes of it. -/
def perform (r : Registry) : Operation → Registry × Outcome
  | .register m =>
    match r.register m with
    | .ok (r', e) => (r', .admitted e)
    | .error e => (r, .refused e)
  | .unregister name =>
    match r.unregister name with
    | .ok (r', e) => (r', .removed e)
    | .error e => (r, .refused e)
  | .ask q => (r, .answered (r.answer q))

/-- Does one operation after the other. -/
def run (r : Registry) : List Operation → Registry × List Outcome
  | [] => (r, [])
  | o :: os =>
    let (r', a) := r.perform o
    let (r'', as) := r'.run os
    (r'', a :: as)

theorem run_cons (r : Registry) (o : Operation) (os : List Operation) :
    r.run (o :: os) =
      (((r.perform o).1.run os).1, (r.perform o).2 :: ((r.perform o).1.run os).2) := rfl

theorem run_append (r : Registry) (os os' : List Operation) :
    r.run (os ++ os') =
      (((r.run os).1.run os').1, (r.run os).2 ++ ((r.run os).1.run os').2) := by
  induction os generalizing r with
  | nil => rfl
  | cons o os ih => simp only [List.cons_append, run_cons, ih]

theorem length_run (r : Registry) (os : List Operation) : (r.run os).2.length = os.length := by
  induction os generalizing r with
  | nil => rfl
  | cons o os ih => simp [run_cons, ih]

/-- What an operation can do to a registry. -/
theorem perform_cases (r : Registry) (o : Operation) :
    (r.perform o).1 = r ∨
      (∃ m r' e, o = .register m ∧ r.register m = .ok (r', e) ∧ r.perform o = (r', .admitted e)) ∨
      ∃ name r' e, o = .unregister name ∧ r.unregister name = .ok (r', e) ∧
        r.perform o = (r', .removed e) := by
  cases o with
  | register m =>
    cases h : r.register m with
    | error e => exact .inl (by simp only [perform, h])
    | ok p => exact .inr (.inl ⟨m, p.1, p.2, rfl, h, by simp only [perform, h]⟩)
  | unregister name =>
    cases h : r.unregister name with
    | error e => exact .inl (by simp only [perform, h])
    | ok p => exact .inr (.inr ⟨name, p.1, p.2, rfl, h, by simp only [perform, h]⟩)
  | ask q => exact .inl rfl

theorem perform_eq_of_isRefusal {r : Registry} {o : Operation}
    (h : (r.perform o).2.isRefusal = true) : (r.perform o).1 = r := by
  rcases perform_cases r o with hr | ⟨m, r', e, -, -, hp⟩ | ⟨name, r', e, -, -, hp⟩
  · exact hr
  · rw [hp] at h
    cases h
  · rw [hp] at h
    cases h

/-! ## Leaving out what is refused -/

/-- The operations of a run that are not refused, with their outcomes. -/
def kept (r : Registry) (os : List Operation) : List (Operation × Outcome) :=
  (os.zip (r.run os).2).filter fun x => !x.2.isRefusal

theorem kept_cons (r : Registry) (o : Operation) (os : List Operation) :
    r.kept (o :: os) =
      if (r.perform o).2.isRefusal then (r.perform o).1.kept os
      else (o, (r.perform o).2) :: (r.perform o).1.kept os := by
  unfold kept
  rw [run_cons, List.zip_cons_cons, List.filter_cons]
  cases (r.perform o).2.isRefusal <;> rfl

/-- Without the operations that are refused the others do as before. -/
theorem run_kept (r : Registry) (os : List Operation) :
    r.run ((r.kept os).map (·.1)) = ((r.run os).1, (r.kept os).map (·.2)) := by
  induction os generalizing r with
  | nil => rfl
  | cons o os ih =>
    rw [kept_cons, run_cons]
    split
    · rename_i h
      rw [perform_eq_of_isRefusal h]
      exact ih r
    · rw [List.map_cons, run_cons, ih]
      rfl

end Registry

/-! ## Reachable states -/

/-- The registry comes of an empty one with the configuration, which is admissible, by some
operations. -/
inductive Reachable (config : Config) : Registry → Prop
  | start {r : Registry} : Registry.withConfig config = .ok r → Reachable config r
  | step {r : Registry} : Reachable config r → (o : Operation) → Reachable config (r.perform o).1

theorem Registry.withConfig_eq_ok {config : Config} {r : Registry}
    (h : Registry.withConfig config = .ok r) : r = { config } := by
  unfold Registry.withConfig at h
  split at h
  · cases h
  · cases h
    rfl

theorem Reachable.run {config : Config} {r : Registry} (h : Reachable config r)
    (os : List Operation) : Reachable config (r.run os).1 := by
  induction os generalizing r with
  | nil => exact h
  | cons o os ih => exact ih (h.step o)

end Registrar
