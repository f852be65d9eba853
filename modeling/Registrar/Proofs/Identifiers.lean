import Registrar.Proofs.NormalForm

/-!
# Names made of identifiers

An identifier is a text of letters, digits and underscores that does not start with a digit
(`Naming.isIdentifier_iff`). The compound form of such a text has letters and digits only
(`Naming.isAlphanum_of_mem_toPascal`) and starts with what follows the separators at the start
(`Naming.head?_toPascal`). So it is an identifier exactly if that is a letter
(`Naming.isIdentifier_toPascal_iff`): of `_` nothing is left, and `_2fa` becomes `2fa`.
-/

namespace Registrar

open Text

namespace Naming

/-! ## Compound names -/

/-- Letters and digits have one character each in upper case, which is again a letter or a digit. -/
theorem upperOf_of_isAlphanum {c : Char} (h : c.isAlphanum = true) :
    upperOf c = [c.toUpper] ∧ c.toUpper.isAlphanum = true ∧ c.toUpper.isAlpha = c.isAlpha := by
  have hrest : isIdentRest c = true := by rw [isIdentRest, h]; rfl
  refine ⟨if_pos (toNat_lt_of_isIdentRest hrest), ?_⟩
  revert h
  exact of_ascii hrest (by decide +kernel)

theorem isIdentStart_toUpper {c : Char} (h : c.isAlphanum = true) :
    isIdentStart c.toUpper = c.isAlpha := by
  obtain ⟨-, hto, halpha⟩ := upperOf_of_isAlphanum h
  have hne : (c.toUpper == '_') = false := by
    rw [beq_eq_false_iff_ne]
    intro he
    rw [he] at hto
    exact absurd hto (by decide)
  rw [isIdentStart, hne, Bool.or_false, halpha]

theorem isAlphanum_of_isIdentRest {c : Char} (h : isIdentRest c = true)
    (hs : isSeparator c = false) : c.isAlphanum = true := by
  simp only [isIdentRest, isSeparator, Bool.or_eq_true, Bool.or_eq_false_iff] at h hs
  exact h.resolve_right fun he => by simp [he] at hs

section
variable {s : String} (hs : ∀ c ∈ s.toList, isIdentRest c = true)
include hs

/-- Nothing but letters and digits is left of a name. -/
theorem isAlphanum_of_mem_toPascal {c : Char} (h : c ∈ (toPascal s).toList) :
    c.isAlphanum = true := by
  rw [toPascal, String.toList_ofList] at h
  obtain ⟨part, hpart, hc⟩ := List.mem_flatMap.1 h
  have halnum : ∀ d ∈ part, d.isAlphanum = true := by
    intro d hd
    obtain ⟨hmem, hsep⟩ := mem_of_mem_splitOnP hpart d hd
    exact isAlphanum_of_isIdentRest (hs d hmem) hsep
  cases part with
  | nil => cases hc
  | cons d part =>
    obtain ⟨hd, hrest⟩ := List.forall_mem_cons.1 halnum
    obtain ⟨hupper, hto, -⟩ := upperOf_of_isAlphanum hd
    rw [capitalize, hupper] at hc
    rcases List.mem_cons.1 hc with rfl | hc
    · exact hto
    · exact hrest c hc

/-- The compound form starts with the first character that is no separator. -/
theorem head?_toPascal :
    (toPascal s).toList.head? = (s.toList.dropWhile isSeparator).head?.map Char.toUpper := by
  rw [toPascal, String.toList_ofList]
  revert hs
  generalize s.toList = cs
  intro hs
  induction cs with
  | nil => rfl
  | cons c cs ih =>
    obtain ⟨hc, hcs⟩ := List.forall_mem_cons.1 hs
    rw [List.splitOnP_cons_eq_if_modifyHead]
    by_cases hsep : isSeparator c = true
    · rw [if_pos hsep, List.dropWhile_cons_of_pos hsep, List.flatMap_cons]
      exact ih hcs
    · rw [if_neg hsep, List.dropWhile_cons_of_neg hsep]
      have halnum := isAlphanum_of_isIdentRest hc (by simpa using hsep)
      obtain ⟨hupper, -⟩ := upperOf_of_isAlphanum halnum
      -- the character leads the first of the parts
      obtain ⟨part, parts, hparts⟩ :=
        List.exists_cons_of_ne_nil (List.splitOnP_ne_nil isSeparator cs)
      rw [hparts, List.modifyHead_cons, List.flatMap_cons, capitalize, hupper]
      rfl

theorem isAlphanum_of_leading {c : Char} (h : c ∈ (s.toList.dropWhile isSeparator).head?) :
    c.isAlphanum = true := by
  have hmem : c ∈ s.toList := List.dropWhile_subset isSeparator (List.mem_of_mem_head? h)
  have hsep := List.head?_dropWhile_not isSeparator s.toList
  rw [Option.mem_def.1 h] at hsep
  exact isAlphanum_of_isIdentRest (hs c hmem) (by simpa using hsep)

theorem isIdentRest_of_mem_toPascal {c : Char} (h : c ∈ (toPascal s).toList) :
    isIdentRest c = true := by
  rw [isIdentRest, isAlphanum_of_mem_toPascal hs h]
  rfl

/-- The compound form is an identifier if a letter comes first, the separators aside. -/
theorem isIdentifier_toPascal_iff : isIdentifier (toPascal s) = true ↔
    ∃ c ∈ (s.toList.dropWhile isSeparator).head?, c.isAlpha = true := by
  have hrest : ∀ c ∈ (toPascal s).toList, isIdentRest c = true :=
    fun c => isIdentRest_of_mem_toPascal hs
  rw [isIdentifier_iff, and_iff_left hrest, head?_toPascal hs]
  cases hd : (s.toList.dropWhile isSeparator).head? with
  | none => simp
  | some d => simp [isIdentStart_toUpper (isAlphanum_of_leading hs hd)]

/-- With a word after it, the compound form is an identifier unless a digit comes first. -/
theorem isIdentifier_toPascal_append_iff {word : String} (hw : isIdentifier word = true) :
    isIdentifier (toPascal s ++ word) = true ↔
      ∀ c ∈ (s.toList.dropWhile isSeparator).head?, c.isAlpha = true := by
  obtain ⟨⟨k, hk, hstart⟩, hword⟩ := isIdentifier_iff.1 hw
  have hrest : ∀ c ∈ (toPascal s ++ word).toList, isIdentRest c = true := by
    intro c hc
    rw [String.toList_append, List.mem_append] at hc
    exact hc.elim (isIdentRest_of_mem_toPascal hs) (hword c)
  rw [isIdentifier_iff, and_iff_left hrest, String.toList_append, List.head?_append,
    head?_toPascal hs, Option.mem_def.1 hk]
  cases hd : (s.toList.dropWhile isSeparator).head? with
  | none => simp [hstart]
  | some d => simp [isIdentStart_toUpper (isAlphanum_of_leading hs hd)]

end

end Naming

end Registrar
