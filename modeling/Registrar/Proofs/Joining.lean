import Registrar.Proofs.Identifiers

/-!
# Joined paths

Blanks and slashes at the ends of a path are no part of its segments (`Path.segmentsOf_cons`,
`Path.segmentsOf_concat`). So trimming keeps the segments (`Path.segmentsOf_trimmed`), joining two
paths joins the lists of their segments (`Path.segmentsOf_joined`), and a path that starts with a
slash has the segments of its canonical form (`Path.segmentsOf_normalized`). `Path.partsOf` are the
segments as texts. A command and an identifier after a blank have a canonical form in which the
identifier stands in a place that depends on the command alone (`Path.exists_normalized_command`).
-/

namespace Registrar

open Text

/-! ## Blanks at the ends -/

namespace Text

theorem dropBlanks_append {s t : List Char} {c : Char} (ht : t.head? = some c)
    (hc : isBlank c = false) : dropBlanks (s ++ t) = dropBlanks s ++ t := by
  have htail : dropBlanks t = t := by
    refine dropBlanks_eq_self fun d hd => ?_
    rw [ht] at hd
    cases hd
    exact hc
  rw [dropBlanks, List.dropWhile_append]
  split
  · rename_i he
    rw [dropBlanks, List.isEmpty_iff.1 he]
    exact htail
  · rfl

theorem trimmed_cons {c : Char} (hc : isBlank c = true) (s : List Char) :
    trimmed (c :: s) = trimmed s := by
  have hdrop : dropBlanks (c :: s) = dropBlanks s := List.dropWhile_cons_of_pos hc
  rw [trimmed, hdrop, trimmed]

theorem trimmed_concat {c : Char} (hc : isBlank c = true) (s : List Char) :
    trimmed (s ++ [c]) = trimmed s := by
  have hdrop : ∀ t, dropBlanks (c :: t) = dropBlanks t := fun t => List.dropWhile_cons_of_pos hc
  rw [trimmed, trimmed]
  by_cases he : (dropBlanks s).isEmpty = true
  · have hend : dropBlanks (s ++ [c]) = [] := by
      rw [dropBlanks] at he ⊢
      rw [List.dropWhile_append, if_pos he]
      exact hdrop []
    rw [hend, List.isEmpty_iff.1 he]
  · have hend : dropBlanks (s ++ [c]) = dropBlanks s ++ [c] := by
      rw [dropBlanks] at he ⊢
      rw [List.dropWhile_append, if_neg he, dropBlanks]
    rw [hend, List.reverse_append, List.reverse_singleton, List.singleton_append, hdrop]

/-- Trimming leaves all that is not blank. -/
theorem mem_trimmed_iff {s : List Char} {c : Char} (hc : isBlank c = false) :
    c ∈ trimmed s ↔ c ∈ s := by
  have hdrop : ∀ t, c ∈ dropBlanks t ↔ c ∈ t := by
    intro t
    refine ⟨fun h => List.dropWhile_subset isBlank h, fun h => ?_⟩
    rw [← List.takeWhile_append_dropWhile (p := isBlank) (l := t), List.mem_append] at h
    refine h.resolve_left fun hm => ?_
    rw [List.mem_takeWhile_imp hm] at hc
    cases hc
  rw [trimmed, List.mem_reverse, hdrop, List.mem_reverse, hdrop]

end Text

namespace Path

/-! ## Blanks and slashes at the ends -/

/-- What may stand at the ends of a path and is no part of its segments. -/
def IsMargin (c : Char) : Prop := isBlank c = true ∨ c = '/'

theorem segmentsOf_of_notMem {s : List Char} (h : '/' ∉ s) :
    segmentsOf s = if trimmed s = [] then [] else [canonicalSegment (trimmed s)] := by
  rw [segmentsOf, List.splitOn_eq_singleton h, List.map_singleton]
  by_cases he : trimmed s = []
  · rw [List.filter_cons_of_neg (by simpa using he), if_pos he]
    rfl
  · rw [List.filter_cons_of_pos (by simpa using he), if_neg he]
    rfl

theorem exists_last_slash {s : List Char} (h : '/' ∈ s) : ∃ q x, s = q ++ '/' :: x ∧ '/' ∉ x := by
  obtain ⟨x, q, hs, hx⟩ := List.eq_append_cons_of_mem (List.mem_reverse.2 h)
  refine ⟨q.reverse, x.reverse, ?_, fun hm => hx (List.mem_reverse.1 hm)⟩
  rw [← List.reverse_reverse s, hs]
  simp

theorem segmentsOf_cons {c : Char} (hc : IsMargin c) (s : List Char) :
    segmentsOf (c :: s) = segmentsOf s := by
  rcases hc with hc | rfl
  · have hslash : (c == '/') = false := by
      rw [beq_eq_false_iff_ne]
      rintro rfl
      exact absurd hc (by decide)
    have hmap : ∀ ls : List (List Char),
        (ls.modifyHead (List.cons c)).map trimmed = ls.map trimmed := by
      intro ls
      cases ls with
      | nil => rfl
      | cons l ls =>
        rw [List.modifyHead_cons, List.map_cons, List.map_cons, trimmed_cons hc]
    rw [segmentsOf, List.splitOn_cons_eq_if_modifyHead, if_neg (by simp [hslash]), hmap, segmentsOf]
  · have happ := segmentsOf_append [] s
    rwa [segmentsOf_nil, List.nil_append, List.nil_append] at happ

theorem segmentsOf_concat {c : Char} (hc : IsMargin c) (s : List Char) :
    segmentsOf (s ++ [c]) = segmentsOf s := by
  rcases hc with hc | rfl
  · have hslash : c ≠ '/' := by
      rintro rfl
      exact absurd hc (by decide)
    -- the blank belongs to what follows the last slash
    have hlast : ∀ x : List Char, '/' ∉ x → segmentsOf (x ++ [c]) = segmentsOf x := by
      intro x hx
      have hx' : '/' ∉ x ++ [c] := by simp [hx, hslash.symm]
      rw [segmentsOf_of_notMem hx', segmentsOf_of_notMem hx, trimmed_concat hc]
    by_cases hs : '/' ∈ s
    · obtain ⟨q, x, rfl, hx⟩ := exists_last_slash hs
      rw [List.append_assoc, List.cons_append, segmentsOf_append, hlast x hx, segmentsOf_append]
    · exact hlast s hs
  · rw [segmentsOf_append, segmentsOf_nil, List.append_nil]

section
variable {p : Char → Bool} (hp : ∀ c, p c = true → IsMargin c)
include hp

theorem segmentsOf_dropWhile (s : List Char) : segmentsOf (s.dropWhile p) = segmentsOf s := by
  induction s with
  | nil => rfl
  | cons c s ih =>
    by_cases hc : p c = true
    · rw [List.dropWhile_cons_of_pos hc, ih, segmentsOf_cons (hp c hc)]
    · rw [List.dropWhile_cons_of_neg hc]

theorem segmentsOf_dropWhile_reverse (s : List Char) :
    segmentsOf (s.dropWhile p).reverse = segmentsOf s.reverse := by
  induction s with
  | nil => rfl
  | cons c s ih =>
    by_cases hc : p c = true
    · rw [List.dropWhile_cons_of_pos hc, ih, List.reverse_cons, segmentsOf_concat (hp c hc)]
    · rw [List.dropWhile_cons_of_neg hc]

end

theorem segmentsOf_trimmed (s : List Char) : segmentsOf (trimmed s) = segmentsOf s := by
  have hblank : ∀ c, isBlank c = true → IsMargin c := fun _ => .inl
  rw [trimmed, dropBlanks, segmentsOf_dropWhile_reverse hblank, List.reverse_reverse, dropBlanks,
    segmentsOf_dropWhile hblank]

/-- The segments of a join are those of the base and those of the suffix. -/
theorem segmentsOf_joined (base suffix : List Char) :
    segmentsOf (joined base suffix) = segmentsOf base ++ segmentsOf suffix := by
  have hslash : ∀ c, decide (c = '/') = true → IsMargin c := fun c hc => .inr (of_decide_eq_true hc)
  have hbase := segmentsOf_dropWhile_reverse hslash base.reverse
  have hsuffix := segmentsOf_dropWhile hslash suffix
  rw [List.reverse_reverse] at hbase
  rw [← hbase, ← hsuffix, joined]
  split
  · rename_i hs hb
    rw [hs, hb]
    decide
  · rename_i hs _
    rw [hs, segmentsOf_nil, List.append_nil]
  · rw [segmentsOf_append]

theorem segmentsOf_toList_join (base suffix : String) :
    segmentsOf (join base suffix).toList = segmentsOf base.toList ++ segmentsOf suffix.toList := by
  rw [join, String.toList_ofList, segmentsOf_joined]

/-- A path that starts with a slash has the segments of its canonical form. -/
theorem segmentsOf_normalized {p : List Char} (h : (trimmed p).head? = some '/') :
    segmentsOf (normalized p) = segmentsOf p := by
  rw [normalized_of_rooted h, segmentsOf_rooted fun _ => isCanonical_of_mem_segmentsOf,
    segmentsOf_trimmed]

/-! ## Identifiers as segments -/

/-- A text of the characters of identifiers. -/
def IsPlain (w : List Char) : Prop := w ≠ [] ∧ ∀ c ∈ w, Naming.isIdentRest c = true

theorem isPlain_of_isIdentifier {s : String} (h : Naming.isIdentifier s = true) :
    IsPlain s.toList := by
  obtain ⟨⟨c, hc, -⟩, hs⟩ := Naming.isIdentifier_iff.1 h
  exact ⟨List.ne_nil_of_mem (List.mem_of_mem_head? hc), hs⟩

namespace IsPlain

variable {w : List Char} (h : IsPlain w)
include h

theorem isWord : IsWord w := ⟨h.1, fun c hc => (Naming.plain_of_isIdentRest (h.2 c hc)).1⟩

theorem slash_notMem : '/' ∉ w := fun hm => (Naming.plain_of_isIdentRest (h.2 _ hm)).2 rfl

theorem head?_ne {c : Char} (hc : Naming.isIdentRest c = false) : w.head? ≠ some c := by
  intro he
  rw [h.2 c (List.mem_of_mem_head? he)] at hc
  cases hc

/-- A text that ends with it does not end with another kind of character. -/
theorem getLast?_append_ne {c : Char} (hc : Naming.isIdentRest c = false) (s : List Char) :
    (s ++ w).getLast? ≠ some c := by
  obtain ⟨d, hd⟩ := Option.ne_none_iff_exists'.1 fun hn => h.1 (List.getLast?_eq_none_iff.1 hn)
  rw [List.getLast?_append, hd]
  intro he
  rw [Option.some_or, Option.some.injEq] at he
  rw [← he, h.2 d (List.mem_of_getLast? hd)] at hc
  cases hc

theorem isCanonical : IsCanonical w where
  segment := ⟨h.1, h.slash_notMem⟩
  trimmed := h.isWord.trimmed
  canonical := canonicalSegment_eq_self (h.head?_ne (by decide)) fun ha =>
    h.head?_ne (by decide) ha.1

theorem segmentsOf : segmentsOf w = [w] := segmentsOf_of_isCanonical h.isCanonical

theorem dropBlanks_append (s : List Char) : dropBlanks (s ++ w) = dropBlanks s ++ w := by
  obtain ⟨c, cs, rfl⟩ := List.exists_cons_of_ne_nil h.1
  exact Text.dropBlanks_append rfl (Naming.plain_of_isIdentRest (h.2 c List.mem_cons_self)).1

/-- Where a text ends with it, trimming drops nothing at the end. -/
theorem trimmed_append (s : List Char) : trimmed (s ++ w) = dropBlanks (s ++ w) := by
  have hlast : ∀ c ∈ (dropBlanks (s ++ w)).reverse.head?, isBlank c = false := by
    intro c hc
    rw [List.head?_reverse, h.dropBlanks_append] at hc
    by_contra hb
    refine h.getLast?_append_ne (c := c) ?_ _ hc
    by_contra hr
    exact hb (Naming.plain_of_isIdentRest (by simpa using hr)).1
  rw [trimmed, dropBlanks_eq_self hlast, List.reverse_reverse]

end IsPlain

/-! ## Segments as texts -/

/-- The canonical segments of a path. -/
def partsOf (path : String) : List String := (segmentsOf path.toList).map String.ofList

theorem partsOf_join (base suffix : String) :
    partsOf (join base suffix) = partsOf base ++ partsOf suffix := by
  rw [partsOf, segmentsOf_toList_join, List.map_append, partsOf, partsOf]

theorem partsOf_normalize {path : String} (h : isAbsolute path = true) :
    partsOf (normalize path) = partsOf path := by
  rw [partsOf, normalize, String.toList_ofList, segmentsOf_normalized (toList_trim_head h), partsOf]

theorem partsOf_of_isIdentifier {s : String} (h : Naming.isIdentifier s = true) :
    partsOf s = [s] := by
  rw [partsOf, (isPlain_of_isIdentifier h).segmentsOf, List.map_singleton, String.ofList_toList]

/-! ## Commands -/

theorem wordsOf_cons {c : Char} (hc : isBlank c = true) (s : List Char) :
    wordsOf (c :: s) = wordsOf s := by
  rw [wordsOf, List.splitOnP_cons_eq_if_modifyHead, if_pos hc, List.filter_cons_of_neg (by simp),
    wordsOf]

theorem wordsOf_dropBlanks (s : List Char) : wordsOf (dropBlanks s) = wordsOf s := by
  induction s with
  | nil => rfl
  | cons c s ih =>
    by_cases hc : isBlank c = true
    · rw [wordsOf_cons hc, ← ih, dropBlanks, List.dropWhile_cons_of_pos hc]
      rfl
    · rw [dropBlanks, List.dropWhile_cons_of_neg hc]

theorem wordsOf_append_cons {c : Char} (hc : isBlank c = true) (s t : List Char) :
    wordsOf (s ++ c :: t) = wordsOf s ++ wordsOf t := by
  rw [wordsOf, List.splitOnP_append_cons s t hc, List.filter_append, wordsOf, wordsOf]

theorem wordsOf_append (s t : List Char) : wordsOf (s ++ ' ' :: t) = wordsOf s ++ wordsOf t :=
  wordsOf_append_cons (by decide) s t

theorem wordsOf_dropBlanks_reverse (s : List Char) :
    wordsOf (dropBlanks s).reverse = wordsOf s.reverse := by
  induction s with
  | nil => rfl
  | cons c s ih =>
    by_cases hc : isBlank c = true
    · have hnil : wordsOf [] = [] := by decide
      rw [List.reverse_cons, wordsOf_append_cons hc, hnil, List.append_nil, ← ih, dropBlanks,
        List.dropWhile_cons_of_pos hc]
      rfl
    · rw [dropBlanks, List.dropWhile_cons_of_neg hc]

theorem wordsOf_trimmed (s : List Char) : wordsOf (trimmed s) = wordsOf s := by
  rw [trimmed, wordsOf_dropBlanks_reverse, List.reverse_reverse, wordsOf_dropBlanks]

theorem exists_intercalate_concat (sep : List Char) (ls : List (List Char)) :
    ∃ pre, ∀ l, sep.intercalate (ls ++ [l]) = pre ++ l := by
  induction ls with
  | nil => exact ⟨[], fun l => by rw [List.nil_append, List.intercalate_singleton]; rfl⟩
  | cons x ls ih =>
    obtain ⟨pre, hpre⟩ := ih
    refine ⟨x ++ sep ++ pre, fun l => ?_⟩
    rw [List.append_assoc (x ++ sep), ← hpre l]
    cases ls with
    | nil => rw [List.cons_append, List.nil_append, List.intercalate_cons_cons]
    | cons y ls => rw [List.cons_append, List.cons_append, List.intercalate_cons_cons]

theorem IsWord.wordsOf {w : List Char} (h : IsWord w) : wordsOf w = [w] := by
  have hword : ∀ v ∈ [w], IsWord v := by simpa using h
  have hjoin := wordsOf_join hword
  rwa [List.intercalate_singleton] at hjoin

/-- The canonical form of a path without a slash has single spaces between its words. -/
theorem normalized_of_no_slash {p : List Char} (h : '/' ∉ p) :
    normalized p = [' '].intercalate (wordsOf p) := by
  have hslash : '/' ∉ trimmed p := by rwa [mem_trimmed_iff (by decide)]
  simp only [normalized, hslash, if_false, wordsOf_trimmed]

/-- Where nothing but the last segment of a command is left, the identifier after it is part of
that segment. -/
theorem exists_segmentsOf_command {x : List Char} (hx : '/' ∉ x) :
    ∃ pre suf, ∀ w, IsPlain w → segmentsOf (x ++ ' ' :: w) = [pre ++ w ++ suf] := by
  have hone : ∀ w, IsPlain w → segmentsOf (x ++ ' ' :: w) =
      [canonicalSegment (dropBlanks (x ++ [' ']) ++ w)] := by
    intro w hw
    have hslash : '/' ∉ x ++ ' ' :: w := by simp [hx, hw.slash_notMem]
    rw [segmentsOf_of_notMem hslash, List.append_cons, hw.trimmed_append, hw.dropBlanks_append,
      if_neg fun he => hw.1 (List.append_eq_nil_iff.1 he).2]
  by_cases hcolon : (dropBlanks (x ++ [' '])).head? = some ':'
  · -- a parameter in the notation with a colon, the name of which ends with the identifier
    obtain ⟨y, hy⟩ := List.head?_eq_some_iff.1 hcolon
    refine ⟨'\x7b' :: y, ['\x7d'], fun w hw => ?_⟩
    rw [hone w hw, hy]
    have hne : y ++ w ≠ [] := fun he => hw.1 (List.append_eq_nil_iff.1 he).2
    obtain ⟨c, cs, hcs⟩ := List.exists_cons_of_ne_nil hne
    rw [List.cons_append, hcs, canonicalSegment, ← hcs]
    rfl
  · refine ⟨dropBlanks (x ++ [' ']), [], fun w hw => ?_⟩
    have hhead : (dropBlanks (x ++ [' ']) ++ w).head? ≠ some ':' := by
      rw [List.head?_append]
      cases hd : (dropBlanks (x ++ [' '])).head? with
      | none => exact hw.head?_ne (by decide)
      | some d => exact fun he => hcolon (hd.trans he)
    rw [hone w hw, List.append_nil,
      canonicalSegment_eq_self hhead fun ha => hw.getLast?_append_ne (by decide) _ ha.2]

/-- In the canonical form of a command and an identifier after it, what stands around the identifier
depends on the command alone. -/
theorem exists_normalized_command (s : List Char) :
    ∃ pre suf, ∀ w, IsPlain w → normalized (s ++ ' ' :: w) = pre ++ w ++ suf := by
  by_cases hs : '/' ∈ s
  · obtain ⟨q, x, rfl, hx⟩ := exists_last_slash hs
    obtain ⟨pre, suf, hseg⟩ := exists_segmentsOf_command hx
    obtain ⟨body, hbody⟩ := exists_intercalate_concat ['/'] (segmentsOf q)
    have htrim : ∀ w, IsPlain w → trimmed (q ++ '/' :: x ++ ' ' :: w) =
        dropBlanks q ++ '/' :: (x ++ ' ' :: w) := by
      intro w hw
      rw [List.append_cons, hw.trimmed_append, ← List.append_cons, List.append_assoc,
        List.cons_append]
      exact dropBlanks_append rfl (by decide)
    have hjoin : ∀ w, IsPlain w →
        ['/'].intercalate (segmentsOf (trimmed (q ++ '/' :: x ++ ' ' :: w))) =
          body ++ (pre ++ w ++ suf) := by
      intro w hw
      rw [segmentsOf_trimmed, List.append_assoc, List.cons_append, segmentsOf_append, hseg w hw,
        hbody]
    -- whether the path starts with a slash is seen before `x`
    have hroot : ∀ w, (dropBlanks q ++ '/' :: (x ++ ' ' :: w)).head? =
        (dropBlanks q ++ ['/']).head? := by
      intro w
      rw [List.head?_append, List.head?_append]
      rfl
    refine ⟨(if (dropBlanks q ++ ['/']).head? = some '/' then ['/'] else []) ++ body ++ pre, suf,
      fun w hw => ?_⟩
    have hslash : '/' ∈ trimmed (q ++ '/' :: x ++ ' ' :: w) := by
      rw [htrim w hw]
      simp
    simp only [normalized, hslash, if_true, hjoin w hw]
    rw [htrim w hw, hroot w]
    split <;> simp
  · obtain ⟨pre, hpre⟩ := exists_intercalate_concat [' '] (wordsOf s)
    refine ⟨pre, [], fun w hw => ?_⟩
    have hslash : '/' ∉ s ++ ' ' :: w := by simp [hs, hw.slash_notMem]
    rw [normalized_of_no_slash hslash, wordsOf_append, hw.isWord.wordsOf, hpre, List.append_nil]

end Path

end Registrar
