import Registrar.Proofs.Joining
import Registrar.Proofs.Requests

/-!
# The words of commands

A command of the command line is matched word by word, but told apart from others by its path.
`Path.Spaced ws p` says that the text `p` is the words `ws` with blanks between them, and
`Path.SameWords p q` that `p` and `q` differ in these blanks at most. In a path without a slash they
are single spaces, so the words tell two commands apart if one of them holds no slash. Blanks within
a segment stay as they are, and so two commands with slashes have the same words exactly if they
differ in blanks (`same_words_iff`).
-/

namespace Registrar

open Text

namespace Path

/-! ## Words with blanks between them -/

/-- What stands between two words. -/
def IsGap (b : List Char) : Prop := b ≠ [] ∧ ∀ c ∈ b, isBlank c = true

/-- The text is the words with blanks between them, but none before the first or after the last. -/
inductive Spaced : List (List Char) → List Char → Prop
  | word {w : List Char} (hw : IsWord w) : Spaced [w] w
  | cons {w b p : List Char} {ws : List (List Char)} (hw : IsWord w) (hb : IsGap b)
    (hp : Spaced ws p) : Spaced (w :: ws) (w ++ b ++ p)

/-- The texts have the same words, in the same order, and may differ in the blanks between them. -/
def SameWords (p q : List Char) : Prop := ∃ ws, Spaced ws p ∧ Spaced ws q

theorem wordsOf_blanks_append {b : List Char} (hb : ∀ c ∈ b, isBlank c = true) (p : List Char) :
    wordsOf (b ++ p) = wordsOf p := by
  induction b with
  | nil => rfl
  | cons c b ih =>
    obtain ⟨hc, hb⟩ := List.forall_mem_cons.1 hb
    rw [List.cons_append, wordsOf_cons hc, ih hb]

theorem Spaced.wordsOf_eq {ws : List (List Char)} {p : List Char} (h : Spaced ws p) :
    wordsOf p = ws := by
  induction h with
  | word hw => exact hw.wordsOf
  | @cons w b p ws hw hb _ ih =>
    obtain ⟨c, b, rfl⟩ := List.exists_cons_of_ne_nil hb.1
    obtain ⟨hc, hb⟩ := List.forall_mem_cons.1 hb.2
    rw [List.append_assoc, List.cons_append, wordsOf_append_cons hc, wordsOf_blanks_append hb, ih,
      hw.wordsOf, List.singleton_append]

theorem Spaced.mem_iff {ws : List (List Char)} {p : List Char} (h : Spaced ws p) {c : Char}
    (hc : isBlank c = false) : c ∈ p ↔ ∃ w ∈ ws, c ∈ w := by
  induction h with
  | word hw => simp
  | @cons w b p ws hw hb _ ih =>
    have hgap : c ∉ b := fun hm => absurd (hb.2 c hm) (by simp [hc])
    simp [ih, hgap]

/-- A list is a part that has a property and a rest that does not begin with it. -/
theorem exists_span (f : Char → Bool) (s : List Char) :
    ∃ u v, s = u ++ v ∧ (∀ c ∈ u, f c = true) ∧ ∀ c ∈ v.head?, f c = false := by
  refine ⟨s.takeWhile f, s.dropWhile f, List.takeWhile_append_dropWhile.symm,
    fun c hc => List.mem_takeWhile_imp hc, fun c hc => ?_⟩
  have hhead := List.head?_dropWhile_not f s
  rw [Option.mem_def.1 hc] at hhead
  simpa using hhead

/-- A text that neither starts nor ends with a blank is a word, or a word and more after a gap. -/
theorem exists_first_word {p : List Char} (h : trimmed p = p) (hne : p ≠ []) :
    IsWord p ∨ ∃ w b q, p = w ++ b ++ q ∧ IsWord w ∧ IsGap b ∧ trimmed q = q ∧ q ≠ [] := by
  obtain ⟨hhead, hlast⟩ := trimmed_eq_self_iff.1 h
  obtain ⟨w, r, rfl, hw, hr⟩ := exists_span (fun c => !isBlank c) p
  simp only [Bool.not_eq_true', Bool.not_eq_false'] at hw hr
  have hword : IsWord w := by
    refine ⟨?_, hw⟩
    rintro rfl
    obtain ⟨c, r, rfl⟩ := List.exists_cons_of_ne_nil hne
    exact absurd (hhead c rfl) (by simp [hr c rfl])
  by_cases hrne : r = []
  · rw [hrne, List.append_nil]
    exact .inl hword
  · obtain ⟨b, q, rfl, hb, hq⟩ := exists_span isBlank r
    have hgap : IsGap b := by
      refine ⟨?_, hb⟩
      rintro rfl
      obtain ⟨c, q, rfl⟩ := List.exists_cons_of_ne_nil hrne
      exact absurd (hq c rfl) (by simp [hr c rfl])
    have hqne : q ≠ [] := by
      -- the text would end with the last blank of the gap
      rintro rfl
      have hblank := hb _ (List.getLast_mem hgap.1)
      rw [hlast _ (by simp [List.getLast?_eq_some_getLast hgap.1])] at hblank
      cases hblank
    have hqlast : ∀ c ∈ q.getLast?, isBlank c = false := by
      intro c hc
      refine hlast c ?_
      rw [List.getLast?_append, List.getLast?_append, Option.mem_def.1 hc]
      rfl
    exact .inr ⟨w, b, q, (List.append_assoc w b q).symm, hword, hgap,
      trimmed_eq_self hq hqlast, hqne⟩

theorem exists_spaced {p : List Char} (h : trimmed p = p) (hne : p ≠ []) : ∃ ws, Spaced ws p := by
  induction hn : p.length using Nat.strong_induction_on generalizing p with
  | _ n ih =>
    rcases exists_first_word h hne with hw | ⟨w, b, q, rfl, hw, hb, hq, hqne⟩
    · exact ⟨[p], .word hw⟩
    · have hlt : q.length < n := by
        have hpos := List.length_pos_of_ne_nil hw.1
        simp only [List.length_append] at hn
        omega
      obtain ⟨ws, hws⟩ := ih _ hlt hq hqne rfl
      exact ⟨w :: ws, .cons hw hb hws⟩

/-- Such texts have the same words exactly if they are the same or differ in blanks. -/
theorem wordsOf_eq_iff {p q : List Char} (hp : trimmed p = p) (hq : trimmed q = q) :
    wordsOf p = wordsOf q ↔ p = q ∨ SameWords p q := by
  have hempty : ∀ {s : List Char}, trimmed s = s → wordsOf s = [] → s = [] := by
    intro s hs hw
    by_contra hne
    obtain ⟨ws, hws⟩ := exists_spaced hs hne
    rw [hws.wordsOf_eq] at hw
    cases hws <;> cases hw
  constructor
  · intro h
    by_cases hpne : p = []
    · rw [hpne] at h
      exact .inl (hpne.trans (hempty hq h.symm).symm)
    · have hqne : q ≠ [] := fun he => hpne (hempty hp (h.trans (by rw [he]; rfl)))
      obtain ⟨ws, hws⟩ := exists_spaced hp hpne
      obtain ⟨vs, hvs⟩ := exists_spaced hq hqne
      rw [hws.wordsOf_eq, hvs.wordsOf_eq] at h
      exact .inr ⟨ws, hws, h ▸ hvs⟩
  · rintro (rfl | ⟨ws, hws, hvs⟩)
    · rfl
    · rw [hws.wordsOf_eq, hvs.wordsOf_eq]

/-- Without a slash a normal path has single spaces between its words. -/
theorem IsNormal.eq_intercalate_words {p : List Char} (h : IsNormal p) (hs : '/' ∉ p) :
    p = [' '].intercalate (wordsOf p) := by
  rw [← normalized_of_no_slash hs, h.normalized]

/-- Normal paths with the same words that are not the same have slashes. -/
theorem SameWords.eq_or_slash {p q : List Char} (h : SameWords p q) (hp : IsNormal p)
    (hq : IsNormal q) : p = q ∨ '/' ∈ p ∧ '/' ∈ q := by
  obtain ⟨ws, hws, hvs⟩ := h
  have hblank : isBlank '/' = false := by decide
  have hmem : '/' ∈ p ↔ '/' ∈ q := (hws.mem_iff hblank).trans (hvs.mem_iff hblank).symm
  by_cases hs : '/' ∈ p
  · exact .inr ⟨hs, hmem.1 hs⟩
  · left
    rw [hp.eq_intercalate_words hs, hq.eq_intercalate_words (mt hmem.2 hs), hws.wordsOf_eq,
      hvs.wordsOf_eq]

end Path

/-! ## Commands of a registry -/

theorem Claim.segments_eq_iff_of_cli {c d : Claim} (hc : c.transport = .cli)
    (hd : d.transport = .cli) :
    c.segments = d.segments ↔ wordsOf c.path.toList = wordsOf d.path.toList := by
  have hinj : Function.Injective String.ofList := fun _ _ => String.ofList_injective
  rw [Claim.segments, Claim.segments, hc, hd]
  exact (List.map_injective_iff.2 hinj).eq_iff

/-- Two commands of a registry have the same words exactly if they are one command, or hold slashes
and differ in the blanks between their words. -/
theorem same_words_iff {config : Config} {r : Registry} (hr : Reachable config r) {c d : Claim}
    (hc : c ∈ r.claims .cli) (hd : d ∈ r.claims .cli) :
    c.segments = d.segments ↔
      c = d ∨ '/' ∈ c.path.toList ∧ '/' ∈ d.path.toList ∧
        Path.SameWords c.path.toList d.path.toList := by
  have h := hr.coherent
  have hcnormal := h.isNormal_path hc
  have hdnormal := h.isNormal_path hd
  have hpath : c.path.toList = d.path.toList → c = d := fun he =>
    h.eq_of_address hc hd (String.toList_inj.1 he) fun ht => by cases ht
  rw [Claim.segments_eq_iff_of_cli ((Registry.mem_claims_iff h).1 hc).1
    ((Registry.mem_claims_iff h).1 hd).1, Path.wordsOf_eq_iff hcnormal.trimmed hdnormal.trimmed]
  constructor
  · rintro (he | hw)
    · exact .inl (hpath he)
    · exact (hw.eq_or_slash hcnormal hdnormal).imp hpath fun ⟨hcs, hds⟩ => ⟨hcs, hds, hw⟩
  · rintro (rfl | ⟨-, -, hw⟩)
    · exact .inl rfl
    · exact .inr hw

/-- A module of commands alone. -/
def commandModule (name command : String) : Module where
  name := name
  schema := .ofList [("title", { type := "string" })]
  channels := { cli := { enabled := true, command := some command } }

/-- A registry of two modules of commands. -/
def commandRegistry (first second : String) : Registry :=
  (({} : Registry).run
    [.register (commandModule "attic" first), .register (commandModule "cellar" second)]).1

/-- The words of a command without a slash are its own, however they are spaced. -/
theorem plain_command_told_apart :
    Reachable {} (commandRegistry "stock  item" "stock") ∧
    ∃ c ∈ (commandRegistry "stock  item" "stock").claims .cli,
      ∃ d ∈ (commandRegistry "stock  item" "stock").claims .cli,
        c.path = "stock item list" ∧ d.path = "stock list" ∧ c.segments ≠ d.segments := by
  have hr : Reachable {} (commandRegistry "stock  item" "stock") := .run (.start rfl) _
  let c : Claim := .plain .cli "stock item list" "attic" "list"
  let d : Claim := .plain .cli "stock list" "cellar" "list"
  obtain ⟨hc, hd⟩ : c ∈ (commandRegistry "stock  item" "stock").claims .cli ∧
      d ∈ (commandRegistry "stock  item" "stock").claims .cli := by decide +kernel
  refine ⟨hr, c, hc, d, hd, by decide, by decide, fun hw => ?_⟩
  rcases (same_words_iff hr hc hd).1 hw with he | ⟨hs, -⟩
  · exact absurd he (by decide)
  · exact absurd hs (by decide)

/-- Two commands with a slash that differ in blanks have the same words. -/
theorem respaced_command_shared :
    Reachable {} (commandRegistry "ops/a b" "ops/a  b") ∧
    ∃ c ∈ (commandRegistry "ops/a b" "ops/a  b").claims .cli,
      ∃ d ∈ (commandRegistry "ops/a b" "ops/a  b").claims .cli,
        c ≠ d ∧ c.segments = ["ops/a", "b", "list"] ∧ d.segments = ["ops/a", "b", "list"] := by
  have hr : Reachable {} (commandRegistry "ops/a b" "ops/a  b") := .run (.start rfl) _
  let c : Claim := .plain .cli "ops/a b list" "attic" "list"
  let d : Claim := .plain .cli "ops/a  b list" "cellar" "list"
  obtain ⟨hc, hd⟩ : c ∈ (commandRegistry "ops/a b" "ops/a  b").claims .cli ∧
      d ∈ (commandRegistry "ops/a b" "ops/a  b").claims .cli := by decide +kernel
  exact ⟨hr, c, hc, d, hd, by decide, by decide, by decide⟩

end Registrar
