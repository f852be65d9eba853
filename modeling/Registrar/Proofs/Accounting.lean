import Registrar.Command.Response
import Registrar.Proofs.Coherence
import Registrar.Proofs.Reports

/-!
# Every file accounted for

`Registry.Admits r fs kept r' failures` goes through files one by one: each of them adds a module to
the registry (`Registry.Adds`) and is kept, or it leaves the registry as it is and is the next of
the failures (`Registry.Rejects`). Registering files does this (`Registry.exists_admits`), which
counts the files (`Registry.Admits.length`), and the files that are kept are registered again
without a failure (`Registry.Admits.again`), since a file that fails changes nothing for those after
it. For the command `check` and the report that it prints this is put together in `check_accounts`.
-/

namespace Registrar

open Document (FileReader loadFile)

namespace Registry

/-! ## One file -/

/-- The registry registers the module of the file, and has it in addition and no other. -/
def Adds (r : Registry) (f : LoadedFile) (r' : Registry) : Prop :=
  ∃ m e, f.result = .ok m ∧ r.register m = .ok (r', e) ∧ e.module = m ∧
    r.modules.get? m.name = none ∧ r'.modules = r.modules.insert m.name e

/-- Why the file is not admitted: there is no valid declaration in it, or the registry refuses the
one that there is. -/
inductive Rejects (r : Registry) (f : LoadedFile) : Failure → Prop
  | document {e : DocumentError} (h : f.result = .error e) : Rejects r f ⟨f.path, .document e⟩
  | refusal {m : Module} {e : RegistryError} (h : f.result = .ok m) (he : r.register m = .error e) :
    Rejects r f ⟨f.path, .refusal e⟩

variable {r r' : Registry} {f : LoadedFile}

theorem Adds.names (h : r.Adds f r') :
    ∃ m, f.result = .ok m ∧ r'.names.Perm (m.name :: r.names) := by
  obtain ⟨m, e, hf, -, -, hnew, hmodules⟩ := h
  refine ⟨m, hf, ?_⟩
  rw [Registry.names, Registry.names, hmodules]
  exact (Dict.entries_insert_perm hnew e).map _

/-- To add the module of a file is an operation on the registry. -/
theorem Adds.perform (h : r.Adds f r') : ∃ m, r' = (r.perform (.register m)).1 := by
  obtain ⟨m, e, -, hreg, -⟩ := h
  exact ⟨m, by simp only [Registry.perform, hreg]⟩

theorem registerFile_eq_ok_iff : r.registerFile f = .ok r' ↔ r.Adds f r' := by
  unfold registerFile
  constructor
  · intro h
    split at h
    · cases h
    · rename_i m hf
      split at h
      · rename_i r₁ e hreg
        cases h
        obtain ⟨hm, rfl, rfl⟩ := register_eq_ok_iff.1 hreg
        exact ⟨m, _, hf, hreg, rfl, hm .newName, rfl⟩
      · cases h
  · rintro ⟨m, e, hf, hreg, -⟩
    simp only [hf, hreg]

theorem registerFile_eq_error_iff {x : Failure} :
    r.registerFile f = .error x ↔ r.Rejects f x := by
  unfold registerFile
  constructor
  · intro h
    split at h
    · rename_i hf
      cases h
      exact .document hf
    · rename_i hf
      split at h
      · cases h
      · rename_i hreg
        cases h
        exact .refusal hf hreg
  · rintro (hf | ⟨hf, hreg⟩)
    · simp only [hf]
    · simp only [hf, hreg]

/-! ## A list of files -/

/-- From the registry on, the files are gone through in order: each adds its module and is kept, or
is the next of the failures. -/
inductive Admits :
    Registry → List LoadedFile → List LoadedFile → Registry → List Failure → Prop
  | nil (r : Registry) : Admits r [] [] r []
  | add {r r' r'' : Registry} {f : LoadedFile} {fs kept : List LoadedFile}
      {failures : List Failure} (ha : r.Adds f r') (h : Admits r' fs kept r'' failures) :
    Admits r (f :: fs) (f :: kept) r'' failures
  | fail {r r' : Registry} {f : LoadedFile} {fs kept : List LoadedFile} {x : Failure}
      {failures : List Failure} (hx : r.Rejects f x) (h : Admits r fs kept r' failures) :
    Admits r (f :: fs) kept r' (x :: failures)

theorem exists_admits (r : Registry) (fs : List LoadedFile) :
    ∃ kept, r.Admits fs kept (r.registerFiles fs).1 (r.registerFiles fs).2 := by
  induction fs generalizing r with
  | nil => exact ⟨[], .nil r⟩
  | cons f fs ih =>
    unfold registerFiles
    cases hf : r.registerFile f with
    | ok r' =>
      obtain ⟨kept, h⟩ := ih r'
      exact ⟨f :: kept, .add (registerFile_eq_ok_iff.1 hf) h⟩
    | error x =>
      obtain ⟨kept, h⟩ := ih r
      exact ⟨kept, .fail (registerFile_eq_error_iff.1 hf) h⟩

namespace Admits

variable {fs kept : List LoadedFile} {failures : List Failure}

theorem sublist (h : r.Admits fs kept r' failures) : kept.Sublist fs := by
  induction h with
  | nil => exact .slnil
  | add _ _ ih => exact ih.cons_cons _
  | fail _ _ ih => exact ih.cons _

/-- No file is lost and none counts twice. -/
theorem length (h : r.Admits fs kept r' failures) :
    kept.length + failures.length = fs.length := by
  induction h with
  | nil => rfl
  | add _ _ ih => simp only [List.length_cons]; omega
  | fail _ _ ih => simp only [List.length_cons]; omega

/-- The names that come in are those of the modules in the files that are kept. -/
theorem names (h : r.Admits fs kept r' failures) :
    ∃ ms : List Module, kept.map (·.result) = ms.map .ok ∧
      r'.names.Perm (ms.map (·.name) ++ r.names) := by
  induction h with
  | nil => exact ⟨[], rfl, .refl _⟩
  | add ha _ ih =>
    obtain ⟨m, hf, hm⟩ := ha.names
    obtain ⟨ms, hms, hall⟩ := ih
    refine ⟨m :: ms, by rw [List.map_cons, List.map_cons, hf, hms], hall.trans ?_⟩
    exact (hm.append_left _).trans List.perm_middle
  | fail _ _ ih => exact ih

theorem reachable {config : Config} (h : r.Admits fs kept r' failures)
    (hr : Reachable config r) : Reachable config r' := by
  induction h with
  | nil => exact hr
  | add ha _ ih =>
    obtain ⟨m, rfl⟩ := ha.perform
    exact ih (hr.step _)
  | fail _ _ ih => exact ih hr

/-- Without the files that failed the others do as before. -/
theorem again (h : r.Admits fs kept r' failures) : r.registerFiles kept = (r', []) := by
  induction h with
  | nil => rfl
  | add ha _ ih =>
    unfold registerFiles
    rw [registerFile_eq_ok_iff.2 ha]
    exact ih
  | fail _ _ ih => exact ih

end Admits

end Registry

/-! ## The command -/

theorem map_path_loadFiles (read : FileReader) (files : List String) :
    (loadFiles read files).map (·.path) = files := by
  rw [loadFiles, List.map_map]
  exact List.map_id files

/-- Files that were loaded are loaded again by their paths. -/
theorem loadFiles_paths {read : FileReader} {fs : List LoadedFile}
    (h : ∀ f ∈ fs, f.result = loadFile read f.path) : loadFiles read (fs.map (·.path)) = fs := by
  rw [loadFiles, List.map_map]
  refine (List.map_congr_left fun f hf => ?_).trans (List.map_id fs)
  show LoadedFile.mk f.path (loadFile read f.path) = f
  rw [← h f hf]

theorem statusOf_isEmpty_iff {α : Type} {l : List α} : statusOf l.isEmpty = 0 ↔ l = [] := by
  cases l <;> simp [statusOf]

/-- The command `check` registers its files, prints what came of it, and succeeds just if nothing
failed. -/
theorem Command.run_check (read : FileReader) {c : Command} {files : List String}
    (htask : c.task = .check files) {config : Config} (hconfig : c.configuration read = .ok config)
    {r : Registry} (hr : Registry.withConfig config = .ok r) {report : CheckReport}
    (hreport : r.check (loadFiles read files) = report) :
    ∃ response, c.run read = .ok response ∧
      response.output = Json.pretty report.toValue ++ "\n" ∧ report.Printed response.output ∧
      (response.status = 0 ↔ report.failures = []) := by
  have hrun : c.run read = .ok (checkFiles r (loadFiles read files)) := by
    simp only [Command.run, hconfig, bind, Except.bind, hr, htask]
    rfl
  rw [checkFiles, hreport] at hrun
  exact ⟨_, hrun, rfl, report.printed_pretty, statusOf_isEmpty_iff⟩

/-- The command `check` accounts for every file, whatever is in it. Each adds a module or is the
next of the failures, so there are as many names and failures as files; the names and the claims are
those of the modules that are added. What is printed tells of these names, claims and failures, and
the command succeeds just if nothing failed. Without the files that failed it succeeds, and what is
printed tells of the same names and claims and of no failure. -/
theorem check_accounts (read : FileReader) {c : Command} {files : List String}
    (htask : c.task = .check files) {config : Config} (hconfig : c.configuration read = .ok config)
    {r : Registry} (hr : Registry.withConfig config = .ok r) :
    let report := r.check (loadFiles read files)
    (∃ response, c.run read = .ok response ∧
      response.output = Json.pretty report.toValue ++ "\n" ∧ report.Printed response.output ∧
      (response.status = 0 ↔ report.failures = [])) ∧
    (loadFiles read files).map (·.path) = files ∧
    report.registered.length + report.failures.length = files.length ∧
    ∃ kept r', r.Admits (loadFiles read files) kept r' report.failures ∧
      report.registered = r'.names ∧
      (∃ ms : List Module, kept.map (·.result) = ms.map .ok ∧
        report.registered.Perm (ms.map (·.name))) ∧
      report.claims = (r'.all.map fun e => e.claims.length).sum ∧
      r.registerFiles (loadFiles read (kept.map (·.path))) = (r', []) ∧
      ∃ response, ({ c with task := .check (kept.map (·.path)) } : Command).run read =
          .ok response ∧
        response.output = Json.pretty { report with failures := [] }.toValue ++ "\n" ∧
        { report with failures := [] }.Printed response.output ∧ response.status = 0 := by
  intro report
  obtain ⟨kept, h⟩ := r.exists_admits (loadFiles read files)
  have hloaded : loadFiles read (kept.map (·.path)) = kept := by
    refine loadFiles_paths fun f hf => ?_
    obtain ⟨path, -, rfl⟩ := List.mem_map.1 (h.sublist.subset hf)
    rfl
  have hkept : r.check (loadFiles read (kept.map (·.path))) = { report with failures := [] } := by
    rw [hloaded, Registry.check, h.again]
    rfl
  obtain ⟨ms, hms, hnames⟩ := h.names
  have hempty : r.names = [] := by
    rw [Registry.withConfig_eq_ok hr]
    rfl
  rw [hempty, List.append_nil] at hnames
  have hlength : report.registered.length = kept.length := by
    have hcount := congrArg List.length hms
    rw [List.length_map, List.length_map] at hcount
    rw [hcount]
    exact hnames.length_eq.trans (List.length_map _)
  refine ⟨Command.run_check read htask hconfig hr rfl, map_path_loadFiles read files, ?_, kept, _,
    h, rfl, ⟨ms, hms, hnames⟩, (h.reachable (.start hr)).coherent.count, ?_, ?_⟩
  · rw [hlength]
    exact h.length.trans (List.length_map _)
  · rw [hloaded, h.again]
  · obtain ⟨response, hrun, hout, hprinted, hstatus⟩ := Command.run_check read
      (c := { c with task := .check (kept.map (·.path)) }) rfl hconfig hr hkept
    exact ⟨response, hrun, hout, hprinted, hstatus.2 rfl⟩

/-- A declaration with one field and the implicit routes of HTTP. -/
def memoText : String :=
  "\x7b\"module\": \"memo\", \"schema\": \x7b\"title\": \x7b\"type\": \"string\"\x7d\x7d, " ++
    "\"channels\": \x7b\"http\": \x7b\"enabled\": true\x7d\x7d\x7d"

/-- Two files, one with a declaration and one that breaks off, and no others. -/
def deskReader : FileReader := fun path =>
  if path = "memo.json" then .ok memoText
  else if path = "torn.json" then .ok "\x7b\"module\":"
  else .error .notFound

/-- The files of a check in which one is named again and one is missing. -/
def deskFiles : List String := ["torn.json", "memo.json", "memo.json", "lost.json"]

/-- A check of these files. -/
def deskCheck : Command where
  task := .check deskFiles
  config := none
  replaceImplicit := false

/-- One file is kept, once, and three times a file fails, the kept one among them; what is printed
tells of that. -/
theorem desk_accounted :
    deskCheck.task = .check deskFiles ∧ deskCheck.configuration deskReader = .ok {} ∧
    Registry.withConfig {} = .ok {} ∧
    (∃ response v, deskCheck.run deskReader = .ok response ∧ response.status ≠ 0 ∧
      Json.read Json.readValue response.output = .ok v ∧
      v.member? "registered" = some (.array [.string "memo"]) ∧
      (∃ h, v.member? "claims" = some (.number (.int 5 h))) ∧
      ∃ vs, v.member? "failures" = some (.array vs) ∧
        vs.map (·.member? "file") =
          [some (.string "torn.json"), some (.string "memo.json"), some (.string "lost.json")]) ∧
    ∃ kept r', ({} : Registry).Admits (loadFiles deskReader deskFiles) kept r'
        (({} : Registry).check (loadFiles deskReader deskFiles)).failures ∧
      kept.length = 1 ∧
      ({} : Registry).registerFiles (loadFiles deskReader (kept.map (·.path))) = (r', []) := by
  have htask : deskCheck.task = .check deskFiles := rfl
  have hconfig : deskCheck.configuration deskReader = .ok {} := rfl
  have hr : Registry.withConfig {} = .ok {} := rfl
  obtain ⟨⟨response, hrun, -, hprinted, hstatus⟩, -, -, kept, r', h, -, -, -, hagain, -⟩ :=
    check_accounts deskReader htask hconfig hr
  obtain ⟨v, hread, hshown⟩ := hprinted
  have hnames : (({} : Registry).check (loadFiles deskReader deskFiles)).registered = ["memo"] := by
    decide +kernel
  have hclaims : (({} : Registry).check (loadFiles deskReader deskFiles)).claims = 5 := by
    decide +kernel
  have hfailed : (({} : Registry).check (loadFiles deskReader deskFiles)).failures.map (·.path) =
      ["torn.json", "memo.json", "lost.json"] := by decide +kernel
  obtain ⟨vs, hvs, hfiles⟩ := hshown.files
  refine ⟨htask, hconfig, hr, ⟨response, v, hrun, fun h0 => ?_, hread, ?_, ?_, vs, hvs, ?_⟩,
    kept, r', h, ?_, hagain⟩
  · rw [hstatus.1 h0] at hfailed
    cases hfailed
  · rw [hshown.registered, hnames]
    rfl
  · obtain ⟨hword, hmember⟩ := hshown.claims
    simp only [hclaims] at hmember
    exact ⟨_, hmember⟩
  · rw [hfiles]
    exact (List.map_map ..).symm.trans (congrArg (List.map (some ∘ Value.string)) hfailed)
  · have hcount := congrArg List.length hfailed
    rw [List.length_map] at hcount
    have hlen := h.length
    rw [hcount] at hlen
    exact Nat.add_right_cancel hlen

end Registrar
