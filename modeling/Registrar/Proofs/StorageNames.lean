import Registrar.Proofs.Identifiers
import Registrar.Proofs.FieldRules
import Mathlib.Data.List.SplitBy

/-!
# Names of storage

A module that sets neither its plural nor its table has both made from its name. The plural is the
name with an ending (`Naming.inflects_pluralize`), and an identifier if the name is one
(`Naming.Inflects.isIdentifier`). The table is the underscored form of the plural: its humps
(`Naming.humps`) in lower case, with underscores between them (`Naming.toSnake_eq_humps`). The
underscored form of an identifier is an identifier without capitals (`Naming.isIdentifier_toSnake`),
and what holds no capitals, dashes and spaces is its own underscored form
(`Naming.underscored_eq_self`). `Module.storage_names` puts this together.
-/

namespace Registrar

open Text

namespace Naming

/-! ## Plurals -/

/-- The second text is the first with one of the endings of a plural. -/
inductive Inflects : String → String → Prop
  | bare (s : String) : Inflects s s
  | s (s : String) : Inflects s (s ++ "s")
  | es (s : String) : Inflects s (s ++ "es")
  | ies (stem : String) : Inflects (stem ++ "y") (stem ++ "ies")

theorem eq_append_of_consonantStem? {s stem : String} (h : consonantStem? s = some stem) :
    s = stem ++ "y" := by
  unfold consonantStem? at h
  split at h
  · rename_i c cs hrev
    split at h
    · cases h
    · cases h
      rw [← String.toList_inj, ← List.reverse_inj, hrev]
      simp
  · cases h

theorem inflects_pluralize (s : String) : Inflects s (pluralize s) := by
  simp only [pluralize]
  split
  · rename_i hempty
    rw [String.isEmpty_iff.1 hempty]
    exact .bare ""
  · split
    · exact .es s
    · split
      · exact .bare s
      · split
        · rename_i stem hstem
          rw [eq_append_of_consonantStem? hstem]
          exact .ies stem
        · exact .s s

/-- The end of an identifier can be replaced by another identifier. -/
theorem isIdentifier_append {s a b : String} (h : isIdentifier (s ++ a) = true)
    (hb : isIdentifier b = true) : isIdentifier (s ++ b) = true := by
  obtain ⟨⟨c, hc, hstart⟩, hrest⟩ := isIdentifier_iff.1 h
  obtain ⟨hfirst, hlast⟩ := isIdentifier_iff.1 hb
  rw [String.toList_append] at hc hrest
  rw [isIdentifier_iff, String.toList_append]
  refine ⟨?_, fun d hd => ?_⟩
  · cases hs : s.toList with
    | nil => exact hfirst
    | cons d ds =>
      rw [hs] at hc
      exact ⟨c, hc, hstart⟩
  · rcases List.mem_append.1 hd with hd | hd
    · exact hrest d (List.mem_append_left _ hd)
    · exact hlast d hd

theorem Inflects.isIdentifier {s t : String} (h : Inflects s t)
    (hs : Naming.isIdentifier s = true) : Naming.isIdentifier t = true := by
  have hempty : Naming.isIdentifier (s ++ "") = true := by rwa [String.append_empty]
  cases h with
  | bare => exact hs
  | s => exact isIdentifier_append hempty (by decide)
  | es => exact isIdentifier_append hempty (by decide)
  | ies => exact isIdentifier_append hs (by decide)

/-! ## One character -/

/-- Whether a capital after the character is set off from it. -/
def endsHump (c : Char) : Bool := c.isLower || c.isDigit

section
variable {c : Char} (h : isIdentRest c = true)
include h

/-- In an identifier only ASCII letters have a case. -/
theorem case_of_isIdentRest :
    lowerOf c = [c.toLower] ∧ isUppercase c = c.isUpper ∧ isLowercase c = c.isLower := by
  have hascii := toNat_lt_of_isIdentRest h
  exact ⟨if_pos hascii, if_pos hascii, if_pos hascii⟩

theorem toLower_of_isIdentRest : isIdentRest c.toLower = true ∧ c.toLower.isUpper = false ∧
    isIdentStart c.toLower = isIdentStart c :=
  of_ascii h (by decide +kernel)

theorem endsHump_of_isUpper : c.isUpper = true → endsHump c = false :=
  of_ascii h (by decide +kernel)

theorem toLower_of_not_isUpper : c.isUpper = false → c.toLower = c :=
  of_ascii h (by decide +kernel)

theorem ne_separator : c ≠ '-' ∧ c ≠ ' ' := of_ascii h (by decide +kernel)

theorem underscored_cons (afterLower : Bool) (cs : List Char) : underscored afterLower (c :: cs) =
    (if afterLower && c.isUpper then ['_'] else []) ++
      c.toLower :: underscored (endsHump c) cs := by
  obtain ⟨hlower, hupper, hsmall⟩ := case_of_isIdentRest h
  rw [underscored, if_neg (not_or.2 (ne_separator h)), hlower, hupper, hsmall]
  cases hu : c.isUpper with
  | true => simp [endsHump_of_isUpper h hu]
  | false => simp [toLower_of_not_isUpper h hu, endsHump]

end

/-! ## Humps -/

/-- Whether the second character goes on with the hump of the first. -/
def sameHump (a b : Char) : Bool := !(endsHump a && b.isUpper)

/-- The pieces of a name: a new one begins with each capital after a small letter or a digit. -/
def humps (s : List Char) : List (List Char) := s.splitBy sameHump

theorem underscored_hump {c : Char} {w : List Char} (hplain : ∀ d ∈ c :: w, isIdentRest d = true)
    (hsame : (c :: w).IsChain fun a b => sameHump a b = true) (afterLower : Bool)
    (t : List Char) : underscored afterLower (c :: w ++ t) =
      (if afterLower && c.isUpper then ['_'] else []) ++ (c :: w).map Char.toLower ++
        underscored (endsHump ((c :: w).getLast (List.cons_ne_nil c w))) t := by
  -- the flag is left open: within the hump it is set, but no capital makes use of it
  induction w generalizing c afterLower with
  | nil =>
    rw [List.cons_append, List.nil_append, underscored_cons (hplain c List.mem_cons_self)]
    simp
  | cons d w ih =>
    obtain ⟨hc, hplain⟩ := List.forall_mem_cons.1 hplain
    obtain ⟨hcd, hsame⟩ := List.isChain_cons_cons.1 hsame
    have hno : (endsHump c && d.isUpper) = false := by
      simpa only [sameHump, Bool.not_eq_true'] using hcd
    rw [List.cons_append, underscored_cons hc, ih hplain hsame, hno]
    simp

theorem underscored_flatten {c : Char} {w : List Char} {ws : List (List Char)}
    (hplain : ∀ l ∈ (c :: w) :: ws, ∀ d ∈ l, isIdentRest d = true)
    (hsame : ∀ l ∈ (c :: w) :: ws, l.IsChain fun a b => sameHump a b = true)
    (hbreak : ((c :: w) :: ws).IsChain fun a b =>
      ∃ ha hb, sameHump (a.getLast ha) (b.head hb) = false) (afterLower : Bool) :
    underscored afterLower ((c :: w) :: ws).flatten =
      (if afterLower && c.isUpper then ['_'] else []) ++
        ['_'].intercalate (((c :: w) :: ws).map (List.map Char.toLower)) := by
  induction ws generalizing c w afterLower with
  | nil =>
    have hw := underscored_hump (hplain _ List.mem_cons_self) (hsame _ List.mem_cons_self)
      afterLower []
    simpa [underscored] using hw
  | cons v ws ih =>
    obtain ⟨hw, hplain⟩ := List.forall_mem_cons.1 hplain
    obtain ⟨hchain, hsame⟩ := List.forall_mem_cons.1 hsame
    obtain ⟨⟨_, hv, hnew⟩, hbreak⟩ := List.isChain_cons_cons.1 hbreak
    obtain ⟨d, v, rfl⟩ := List.exists_cons_of_ne_nil hv
    -- the hump that follows is the one that asks for the underscore
    have hlead : (endsHump ((c :: w).getLast (List.cons_ne_nil c w)) && d.isUpper) = true := by
      simpa only [sameHump, Bool.not_eq_false', List.head_cons] using hnew
    rw [List.flatten_cons, underscored_hump hw hchain, ih hplain hsame hbreak, hlead]
    simp [List.intercalate_cons_cons]

/-- The underscored form of a name consists of its humps, in lower case. -/
theorem toSnake_eq_humps {s : String} (hs : ∀ c ∈ s.toList, isIdentRest c = true) :
    (toSnake s).toList = ['_'].intercalate ((humps s.toList).map (List.map Char.toLower)) := by
  rw [toSnake, String.toList_ofList]
  cases hhumps : humps s.toList with
  | nil =>
    rw [List.splitBy_eq_nil.1 hhumps]
    rfl
  | cons w ws =>
    obtain ⟨hflat, hne, hsame, hbreak⟩ := List.splitBy_eq_iff.1 hhumps
    obtain ⟨c, w, rfl⟩ := List.exists_cons_of_ne_nil fun he => hne (he ▸ List.mem_cons_self)
    rw [hflat] at hs ⊢
    have hplain : ∀ l ∈ (c :: w) :: ws, ∀ d ∈ l, isIdentRest d = true :=
      fun l hl d hd => hs d (List.mem_flatten_of_mem hl hd)
    rw [underscored_flatten hplain hsame hbreak]
    rfl

/-- A capital after a capital or an underscore begins no hump. -/
example : humps "userIDs2_SyncLog".toList =
    ["user".toList, "IDs2_Sync".toList, "Log".toList] := by decide

/-! ## Names without capitals -/

theorem mem_underscored {cs : List Char} (hcs : ∀ c ∈ cs, isIdentRest c = true)
    {afterLower : Bool} {d : Char} (h : d ∈ underscored afterLower cs) :
    isIdentRest d = true ∧ isUppercase d = false := by
  induction cs generalizing afterLower with
  | nil => cases h
  | cons c cs ih =>
    obtain ⟨hc, hcs⟩ := List.forall_mem_cons.1 hcs
    rw [underscored_cons hc, List.mem_append, List.mem_cons] at h
    rcases h with h | rfl | h
    · split at h
      · rw [List.mem_singleton.1 h]
        decide
      · cases h
    · obtain ⟨hrest, hupper, -⟩ := toLower_of_isIdentRest hc
      exact ⟨hrest, (case_of_isIdentRest hrest).2.1.trans hupper⟩
    · exact ih hcs h

theorem underscored_eq_self {cs : List Char}
    (h : ∀ c ∈ cs, (c ≠ '-' ∧ c ≠ ' ') ∧ isUppercase c = false) (afterLower : Bool) :
    underscored afterLower cs = cs := by
  induction cs generalizing afterLower with
  | nil => rfl
  | cons c cs ih =>
    obtain ⟨⟨hsep, hupper⟩, hcs⟩ := List.forall_mem_cons.1 h
    rw [underscored, if_neg (not_or.2 hsep), hupper, if_neg Bool.false_ne_true, ih hcs]

section
variable {s : String} (h : isIdentifier s = true)
include h

theorem mem_toSnake {c : Char} (hc : c ∈ (toSnake s).toList) :
    isIdentRest c = true ∧ isUppercase c = false := by
  rw [toSnake, String.toList_ofList] at hc
  exact mem_underscored (isIdentifier_iff.1 h).2 hc

theorem isIdentifier_toSnake : isIdentifier (toSnake s) = true := by
  obtain ⟨⟨c, hc, hstart⟩, -⟩ := isIdentifier_iff.1 h
  obtain ⟨cs, hcs⟩ := List.head?_eq_some_iff.1 hc
  have hrest := isIdentRest_of_isIdentStart hstart
  have hhead : (toSnake s).toList.head? = some c.toLower := by
    rw [toSnake, String.toList_ofList, hcs, underscored_cons hrest]
    rfl
  refine isIdentifier_iff.2 ⟨⟨_, hhead, ?_⟩, fun d hd => (mem_toSnake h hd).1⟩
  rw [(toLower_of_isIdentRest hrest).2.2, hstart]

theorem toSnake_toSnake : toSnake (toSnake s) = toSnake s := by
  have hself : ∀ c ∈ (toSnake s).toList, (c ≠ '-' ∧ c ≠ ' ') ∧ isUppercase c = false := by
    intro c hc
    obtain ⟨hrest, hupper⟩ := mem_toSnake h hc
    exact ⟨ne_separator hrest, hupper⟩
  rw [toSnake, underscored_eq_self hself, String.ofList_toList]

end

end Naming

/-! ## Modules -/

/-- The names that a module with an identifier for a name is stored under, where it sets none of its
own. The plural is the name with an ending, and an identifier. The table consists of the humps of
the plural, is an identifier without capitals, and is its own underscored form. -/
theorem Module.storage_names {m : Module} (hname : Naming.isIdentifier m.name = true)
    (hplural : ∀ plural, m.about.plural = some plural → isBlankText plural = true)
    (htable : ∀ table, m.about.table = some table → isBlankText table = true) :
    (Naming.Inflects m.name m.plural ∧ Naming.isIdentifier m.plural = true) ∧
    m.table.toList =
      ['_'].intercalate ((Naming.humps m.plural.toList).map (List.map Char.toLower)) ∧
    (Naming.isIdentifier m.table = true ∧ ∀ c ∈ m.table.toList, isUppercase c = false) ∧
    Naming.toSnake m.table = m.table := by
  have hp : m.plural = Naming.pluralize m.name := by
    rw [plural, nonBlank?_eq_none_iff.2 hplural, Option.getD_none]
  have ht : m.table = Naming.toSnake m.plural := by
    rw [table, nonBlank?_eq_none_iff.2 htable, Option.getD_none]
  have hinflects : Naming.Inflects m.name m.plural := hp ▸ Naming.inflects_pluralize m.name
  have hident := hinflects.isIdentifier hname
  rw [ht]
  exact ⟨⟨hinflects, hident⟩, Naming.toSnake_eq_humps (Naming.isIdentifier_iff.1 hident).2,
    ⟨Naming.isIdentifier_toSnake hident, fun c hc => (Naming.mem_toSnake hident hc).2⟩,
    Naming.toSnake_toSnake hident⟩

/-- A module with capitals in its name and blanks for its plural. -/
def feedModule : Module where
  name := "_rssFEEDCategory"
  about := { plural := some " \t" }

theorem feed_stored :
    Naming.isIdentifier feedModule.name = true ∧
    (∀ plural, feedModule.about.plural = some plural → isBlankText plural = true) ∧
    (∀ table, feedModule.about.table = some table → isBlankText table = true) ∧
    feedModule.plural = "_rssFEEDCategories" ∧ feedModule.table = "_rss_feedcategories" ∧
    Naming.isIdentifier "_rssFEEDCategories" = true ∧
    Naming.isIdentifier "_rss_feedcategories" = true ∧
    Naming.toSnake "_rss_feedcategories" = "_rss_feedcategories" := by
  have hname : Naming.isIdentifier feedModule.name = true := by decide
  have hblank : ∀ plural, feedModule.about.plural = some plural → isBlankText plural = true := by
    rintro plural ⟨⟩
    decide
  have hnone : ∀ table, feedModule.about.table = some table → isBlankText table = true := by
    rintro table ⟨⟩
  have hplural : feedModule.plural = "_rssFEEDCategories" := by decide +kernel
  have htable : feedModule.table = "_rss_feedcategories" := by decide +kernel
  obtain ⟨⟨-, hident⟩, -, ⟨hclean, -⟩, hself⟩ := Module.storage_names hname hblank hnone
  rw [hplural] at hident
  rw [htable] at hclean hself
  exact ⟨hname, hblank, hnone, hplural, htable, hident, hclean, hself⟩

end Registrar
