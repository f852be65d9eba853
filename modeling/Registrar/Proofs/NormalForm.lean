import Registrar.Proofs.FieldRules
import Registrar.Proofs.Segments

/-!
# Paths in normal form

`Path.IsNormal p` says that `p` is a list of canonical segments between slashes, after one more
slash or, where there are two of them at least, without it, or that it is a list of words between
blanks. Such a path is its own canonical form (`Path.IsNormal.normalized`), and the canonical form
of a path is one unless a slash ends a path that none begins (`Path.isNormal_normalized`). No claim
is made with a path of that kind, so the paths of claims are normal, those of the command line
included (`Module.normalize_claim_path`).
-/

namespace Registrar

open Text

/-! ## Trimmed texts -/

namespace Text

theorem dropBlanks_eq_self {s : List Char} (h : ∀ c ∈ s.head?, isBlank c = false) :
    dropBlanks s = s := by
  cases s with
  | nil => rfl
  | cons c s => exact List.dropWhile_cons_of_neg (by simp [h c rfl])

/-- A list that neither starts nor ends with a blank. -/
theorem trimmed_eq_self {s : List Char} (hhead : ∀ c ∈ s.head?, isBlank c = false)
    (hlast : ∀ c ∈ s.getLast?, isBlank c = false) : trimmed s = s := by
  rw [trimmed, dropBlanks_eq_self hhead, dropBlanks_eq_self fun c hc => ?_, List.reverse_reverse]
  rw [List.head?_reverse] at hc
  exact hlast c hc

theorem isBlank_head?_dropBlanks {s : List Char} {c : Char} (h : c ∈ (dropBlanks s).head?) :
    isBlank c = false := by
  have hd := List.head?_dropWhile_not isBlank s
  rw [dropBlanks] at h
  rw [Option.mem_def.1 h] at hd
  simpa using hd

/-- What is trimmed is a list less a part at its end. -/
theorem exists_append_trimmed (s : List Char) : ∃ t, trimmed s ++ t = dropBlanks s := by
  obtain ⟨t, ht⟩ := List.dropWhile_suffix (l := (dropBlanks s).reverse) isBlank
  refine ⟨t.reverse, ?_⟩
  rw [trimmed, dropBlanks, ← List.reverse_append, ht, List.reverse_reverse]

theorem isBlank_head?_trimmed {s : List Char} {c : Char} (h : c ∈ (trimmed s).head?) :
    isBlank c = false := by
  obtain ⟨t, ht⟩ := exists_append_trimmed s
  refine isBlank_head?_dropBlanks (s := s) ?_
  rw [← ht, List.head?_append, Option.mem_def.1 h]
  rfl

theorem isBlank_getLast?_trimmed {s : List Char} {c : Char} (h : c ∈ (trimmed s).getLast?) :
    isBlank c = false := by
  rw [trimmed, List.getLast?_reverse] at h
  exact isBlank_head?_dropBlanks h

/-- What a list ends with it ends with after trimming, unless that is a blank. -/
theorem getLast?_trimmed {s : List Char} {c : Char} (h : s.getLast? = some c)
    (hc : isBlank c = false) : (trimmed s).getLast? = some c := by
  have hdrop : (dropBlanks s).getLast? = some c := by
    obtain ⟨t, ht⟩ := List.dropWhile_suffix (l := s) isBlank
    rw [← ht, List.getLast?_append] at h
    rw [dropBlanks]
    cases hd : (s.dropWhile isBlank).getLast? with
    | some d =>
      rw [hd] at h
      exact h
    | none =>
      -- then all of the list would be blank
      have hall := List.dropWhile_eq_nil_iff.1 (List.getLast?_eq_none_iff.1 hd)
      rw [hd] at h
      have hmem : c ∈ s := ht ▸ List.mem_append_left _ (List.mem_of_getLast? h)
      rw [hall c hmem] at hc
      cases hc
  rw [trimmed, dropBlanks_eq_self (s := (dropBlanks s).reverse) fun d hd => ?_,
    List.reverse_reverse, hdrop]
  rw [List.head?_reverse, hdrop] at hd
  cases hd
  exact hc

theorem trimmed_trimmed (s : List Char) : trimmed (trimmed s) = trimmed s :=
  trimmed_eq_self (fun _ => isBlank_head?_trimmed) fun _ => isBlank_getLast?_trimmed

theorem trimmed_eq_self_iff {s : List Char} : trimmed s = s ↔
    (∀ c ∈ s.head?, isBlank c = false) ∧ ∀ c ∈ s.getLast?, isBlank c = false := by
  refine ⟨fun h => ?_, fun ⟨hhead, hlast⟩ => trimmed_eq_self hhead hlast⟩
  rw [← h]
  exact ⟨fun _ => isBlank_head?_trimmed, fun _ => isBlank_getLast?_trimmed⟩

end Text

/-! ## Lists joined with a separator -/

theorem mem_intercalate {α : Type} {a c : α} {ls : List (List α)} (h : c ∈ [a].intercalate ls) :
    c = a ∨ ∃ l ∈ ls, c ∈ l := by
  induction ls with
  | nil => cases h
  | cons l ls ih =>
    cases ls with
    | nil =>
      rw [List.intercalate_singleton] at h
      exact .inr ⟨l, List.mem_cons_self, h⟩
    | cons l' ls =>
      rw [List.intercalate_cons_cons, List.mem_append, List.mem_append, List.mem_singleton] at h
      rcases h with (h | h) | h
      · exact .inr ⟨l, List.mem_cons_self, h⟩
      · exact .inl h
      · exact (ih h).imp_right fun ⟨x, hx, hc⟩ => ⟨x, List.mem_cons_of_mem _ hx, hc⟩

theorem head?_intercalate {α : Type} {sep l : List α} (h : l ≠ []) (ls : List (List α)) :
    (sep.intercalate (l :: ls)).head? = l.head? := by
  cases ls with
  | nil => rw [List.intercalate_singleton]
  | cons l' ls =>
    obtain ⟨c, l, rfl⟩ := List.exists_cons_of_ne_nil h
    rfl

theorem getLast?_intercalate {α : Type} {sep : List α} {c : α} {ls : List (List α)}
    (hls : ∀ l ∈ ls, l ≠ []) (h : c ∈ (sep.intercalate ls).getLast?) :
    ∃ l ∈ ls, c ∈ l.getLast? := by
  induction ls with
  | nil => cases h
  | cons l ls ih =>
    cases ls with
    | nil =>
      rw [List.intercalate_singleton] at h
      exact ⟨l, List.mem_cons_self, h⟩
    | cons l' ls =>
      have hls' : ∀ x ∈ l' :: ls, x ≠ [] := fun x hx => hls x (List.mem_cons_of_mem _ hx)
      have hne : (sep.intercalate (l' :: ls)).getLast? ≠ none := by
        intro hn
        have hhead : (sep.intercalate (l' :: ls)).head? = l'.head? :=
          head?_intercalate (hls' l' List.mem_cons_self) ls
        rw [List.getLast?_eq_none_iff.1 hn] at hhead
        exact hls' l' List.mem_cons_self (List.head?_eq_none_iff.1 hhead.symm)
      obtain ⟨d, hd⟩ := Option.ne_none_iff_exists'.1 hne
      rw [List.intercalate_cons_cons, List.getLast?_append, hd] at h
      cases h
      obtain ⟨x, hx, hc⟩ := ih hls' hd
      exact ⟨x, List.mem_cons_of_mem _ hx, hc⟩

/-- A join has no blank at its ends if its parts have none. -/
theorem Text.trimmed_intercalate {sep : List Char} {ls : List (List Char)}
    (hne : ∀ l ∈ ls, l ≠ []) (h : ∀ l ∈ ls, trimmed l = l) :
    trimmed (sep.intercalate ls) = sep.intercalate ls := by
  refine trimmed_eq_self (fun c hc => ?_) fun c hc => ?_
  · cases ls with
    | nil => cases hc
    | cons l ls =>
      rw [head?_intercalate (hne l List.mem_cons_self)] at hc
      exact (trimmed_eq_self_iff.1 (h l List.mem_cons_self)).1 c hc
  · obtain ⟨l, hl, hc⟩ := getLast?_intercalate hne hc
    exact (trimmed_eq_self_iff.1 (h l hl)).2 c hc

namespace Path

/-! ## Canonical segments -/

/-- A segment that normalization leaves as it is. -/
structure IsCanonical (s : List Char) : Prop where
  segment : IsSegment s
  trimmed : trimmed s = s
  canonical : canonicalSegment s = s

/-- A segment is canonical as it stands unless it begins with a colon or stands in angles. -/
theorem canonicalSegment_eq_self {s : List Char} (hcolon : s.head? ≠ some ':')
    (hangle : ¬ (s.head? = some '<' ∧ s.getLast? = some '>')) : canonicalSegment s = s := by
  unfold canonicalSegment
  split
  · exact absurd rfl hcolon
  · cases hn : angleName? s with
    | none => rfl
    | some name =>
      obtain ⟨inner, hi, -⟩ := Option.map_eq_some_iff.1 (Option.filter_eq_some_iff.1 hn).1
      rw [eq_of_between? hi, List.getLast?_append] at hangle
      exact absurd ⟨rfl, rfl⟩ hangle

theorem canonicalSegment_cases (s : List Char) :
    canonicalSegment s = s ∨ ∃ name, canonicalSegment s = param name := by
  unfold canonicalSegment
  split
  · exact .inr ⟨_, rfl⟩
  · cases angleName? s with
    | none => exact .inl rfl
    | some name => exact .inr ⟨name, rfl⟩

theorem trimmed_param (name : List Char) : trimmed (param name) = param name := by
  refine trimmed_eq_self (fun c hc => ?_) fun c hc => ?_
  · cases hc
    decide
  · rw [param, List.getLast?_append] at hc
    cases hc
    decide

theorem isCanonical_of_mem_segmentsOf {s l : List Char} (h : l ∈ segmentsOf s) :
    IsCanonical l := by
  refine ⟨isSegment_of_mem_segmentsOf h, ?_, ?_⟩
  all_goals
    obtain ⟨t, ht, rfl⟩ := List.mem_map.1 h
    obtain ⟨p, -, rfl⟩ := List.mem_map.1 (List.mem_filter.1 ht).1
    rcases canonicalSegment_cases (Text.trimmed p) with he | ⟨name, he⟩
  · rw [he, trimmed_trimmed]
  · rw [he, trimmed_param]
  · rw [he, he]
  · rw [he]
    exact canonicalSegment_eq_self (by simp [param]) (by simp [param])

theorem segmentsOf_append (p q : List Char) :
    segmentsOf (p ++ '/' :: q) = segmentsOf p ++ segmentsOf q := by
  simp only [segmentsOf, List.splitOn_append_cons_self, List.map_append, List.filter_append]

theorem segmentsOf_nil : segmentsOf [] = [] := by decide

theorem segmentsOf_of_isCanonical {s : List Char} (h : IsCanonical s) : segmentsOf s = [s] := by
  rw [segmentsOf, List.splitOn_eq_singleton h.segment.2, List.map_singleton, h.trimmed,
    List.filter_cons_of_pos (by simpa using h.segment.1), List.filter_nil, List.map_singleton,
    h.canonical]

/-- Canonical segments are what their join is made of. -/
theorem segmentsOf_join {ss : List (List Char)} (h : ∀ s ∈ ss, IsCanonical s) :
    segmentsOf (['/'].intercalate ss) = ss := by
  induction ss with
  | nil => exact segmentsOf_nil
  | cons s ss ih =>
    obtain ⟨hs, hss⟩ := List.forall_mem_cons.1 h
    cases ss with
    | nil => rw [List.intercalate_singleton, segmentsOf_of_isCanonical hs]
    | cons t ss =>
      rw [List.intercalate_cons_cons, List.append_assoc, List.singleton_append, segmentsOf_append,
        segmentsOf_of_isCanonical hs, ih hss, List.singleton_append]

theorem segmentsOf_rooted {ss : List (List Char)} (h : ∀ s ∈ ss, IsCanonical s) :
    segmentsOf ('/' :: ['/'].intercalate ss) = ss := by
  have happ := segmentsOf_append [] (['/'].intercalate ss)
  rw [List.nil_append, segmentsOf_nil, List.nil_append] at happ
  rw [happ, segmentsOf_join h]

/-- A character that is neither blank nor a slash is part of a segment. -/
theorem segmentsOf_ne_nil {s : List Char} {c : Char} (h : c ∈ s) (hb : isBlank c = false)
    (hc : c ≠ '/') : segmentsOf s ≠ [] := by
  have hparts : ['/'].intercalate (s.splitOn '/') = s := List.intercalate_splitOn '/'
  rw [← hparts] at h
  obtain ⟨l, hl, hcl⟩ := (mem_intercalate h).resolve_left hc
  have hne : Text.trimmed l ≠ [] := fun hn => by
    rw [List.all_eq_true.1 (trimmed_eq_nil_iff.1 hn) c hcl] at hb
    cases hb
  refine List.ne_nil_of_mem (List.mem_map.2 ⟨Text.trimmed l, ?_, rfl⟩)
  exact List.mem_filter.2 ⟨List.mem_map.2 ⟨l, hl, rfl⟩, by simpa using hne⟩

/-! ## Words -/

/-- What stands between two blanks of a command. -/
def IsWord (w : List Char) : Prop := w ≠ [] ∧ ∀ c ∈ w, isBlank c = false

theorem IsWord.trimmed {w : List Char} (h : IsWord w) : Text.trimmed w = w :=
  trimmed_eq_self (fun c hc => h.2 c (List.mem_of_mem_head? hc))
    fun c hc => h.2 c (List.mem_of_getLast? hc)

theorem mem_wordsOf {s w : List Char} (h : w ∈ wordsOf s) : IsWord w ∧ w ⊆ s := by
  obtain ⟨hw, hne⟩ := List.mem_filter.1 h
  have hmem := mem_of_mem_splitOnP hw
  exact ⟨⟨by simpa using hne, fun c hc => (hmem c hc).2⟩, fun c hc => (hmem c hc).1⟩

/-- Words are what their join is made of. -/
theorem wordsOf_join {ws : List (List Char)} (h : ∀ w ∈ ws, IsWord w) :
    wordsOf ([' '].intercalate ws) = ws := by
  induction ws with
  | nil => decide
  | cons w ws ih =>
    obtain ⟨hw, hws⟩ := List.forall_mem_cons.1 h
    have hne : (!w.isEmpty) = true := by simpa using hw.1
    cases ws with
    | nil =>
      rw [List.intercalate_singleton, wordsOf, List.splitOnP_eq_singleton hw.2,
        List.filter_cons, if_pos hne, List.filter_nil]
    | cons w' ws =>
      have ih := ih hws
      rw [wordsOf] at ih ⊢
      rw [List.intercalate_cons_cons, List.append_assoc, List.singleton_append,
        List.splitOnP_append_cons_of_forall_mem hw.2 ' ' (by decide),
        List.filter_cons, if_pos hne, ih]

/-! ## Normal form -/

/-- A path as normalization writes it. -/
inductive IsNormal : List Char → Prop
  | rooted {ss : List (List Char)} (h : ∀ s ∈ ss, IsCanonical s) :
    IsNormal ('/' :: ['/'].intercalate ss)
  | relative {s t : List Char} {ss : List (List Char)} (h : ∀ x ∈ s :: t :: ss, IsCanonical x) :
    IsNormal (['/'].intercalate (s :: t :: ss))
  | command {ws : List (List Char)} (h : ∀ w ∈ ws, IsWord w) (hs : ∀ w ∈ ws, '/' ∉ w) :
    IsNormal ([' '].intercalate ws)

namespace IsNormal

theorem trimmed {p : List Char} (h : IsNormal p) : Text.trimmed p = p := by
  cases h with
  | @rooted ss h =>
    have hjoin : Text.trimmed (['/'].intercalate ss) = ['/'].intercalate ss :=
      trimmed_intercalate (fun s hs => (h s hs).segment.1) fun s hs => (h s hs).trimmed
    refine trimmed_eq_self (fun c hc => ?_) fun c hc => ?_
    · cases hc
      decide
    · rw [List.getLast?_cons] at hc
      cases hc
      cases hl : (['/'].intercalate ss).getLast? with
      | none => decide
      | some d => exact (trimmed_eq_self_iff.1 hjoin).2 d hl
  | relative h =>
    exact trimmed_intercalate (fun s hs => (h s hs).segment.1) fun s hs => (h s hs).trimmed
  | command h _ => exact trimmed_intercalate (fun w hw => (h w hw).1) fun w hw => (h w hw).trimmed

/-- A path in normal form is its own canonical form. -/
theorem normalized {p : List Char} (h : IsNormal p) : normalized p = p := by
  have htrim := h.trimmed
  cases h with
  | @rooted ss h =>
    rw [normalized_of_rooted (by rw [htrim]; rfl), htrim, segmentsOf_rooted h]
  | @relative s t ss h =>
    have hs := h s List.mem_cons_self
    have hslash : '/' ∈ ['/'].intercalate (s :: t :: ss) := by simp
    have hhead : (['/'].intercalate (s :: t :: ss)).head? ≠ some '/' := by
      rw [head?_intercalate hs.segment.1]
      exact fun hh => hs.segment.2 (List.mem_of_mem_head? hh)
    simp only [Path.normalized, htrim, hslash, hhead, if_true, if_false, segmentsOf_join h]
  | @command ws h hs =>
    have hslash : '/' ∉ [' '].intercalate ws := by
      intro hm
      rcases mem_intercalate hm with hm | ⟨w, hw, hm⟩
      · exact absurd hm (by decide)
      · exact hs w hw hm
    simp only [Path.normalized, htrim, hslash, if_false, wordsOf_join h]

end IsNormal

/-- What normalization gives is in normal form, unless a slash ends a path that does not begin with
one. -/
theorem isNormal_normalized {p : List Char}
    (h : (Text.trimmed p).head? = some '/' ∨ (Text.trimmed p).getLast? ≠ some '/') :
    IsNormal (normalized p) := by
  by_cases hroot : (Text.trimmed p).head? = some '/'
  · rw [normalized_of_rooted hroot]
    exact .rooted fun s => isCanonical_of_mem_segmentsOf
  · have hlast := h.resolve_left hroot
    by_cases hslash : '/' ∈ Text.trimmed p
    · simp only [normalized, hslash, hroot, if_true, if_false]
      have hcan : ∀ s ∈ segmentsOf (Text.trimmed p), IsCanonical s :=
        fun s => isCanonical_of_mem_segmentsOf
      -- on either side of a slash there is a segment, with the first character and with the last
      obtain ⟨q, r, hqr⟩ := List.append_of_mem hslash
      have hq : segmentsOf q ≠ [] := by
        cases q with
        | nil => exact absurd (by rw [hqr]; rfl) hroot
        | cons c q =>
          have hc : (Text.trimmed p).head? = some c := by rw [hqr]; rfl
          exact segmentsOf_ne_nil List.mem_cons_self (isBlank_head?_trimmed hc)
            fun he => hroot (he ▸ hc)
      have hr : segmentsOf r ≠ [] := by
        cases hc : r.getLast? with
        | none =>
          rw [List.getLast?_eq_none_iff.1 hc] at hqr
          exact absurd (by rw [hqr, List.getLast?_append]; rfl) hlast
        | some c =>
          have hc' : (Text.trimmed p).getLast? = some c := by
            rw [hqr, List.getLast?_append, List.getLast?_cons, hc]
            rfl
          exact segmentsOf_ne_nil (List.mem_of_getLast? hc) (isBlank_getLast?_trimmed hc')
            fun he => hlast (he ▸ hc')
      rw [hqr, segmentsOf_append] at hcan ⊢
      obtain ⟨s, ss, hs⟩ := List.exists_cons_of_ne_nil hq
      obtain ⟨t, ts, ht⟩ := List.exists_cons_of_ne_nil hr
      rw [hs, ht] at hcan ⊢
      cases ss with
      | nil => exact .relative hcan
      | cons s' ss => exact .relative hcan
    · simp only [normalized, hslash, if_false]
      exact .command (fun w hw => (mem_wordsOf hw).1) fun w hw hm => hslash ((mem_wordsOf hw).2 hm)

theorem normalize_eq_self {p : String} (h : IsNormal p.toList) : normalize p = p := by
  rw [normalize, h.normalized, String.ofList_toList]

end Path

/-! ## Names of actions -/

namespace Naming

theorem toNat_lt_of_isIdentRest {c : Char} (h : isIdentRest c = true) : c.toNat < 0x80 := by
  have hbelow : ∀ {x : UInt32}, c.val ≤ x → x.toNat < 0x80 → c.toNat < 0x80 :=
    fun hc => Nat.lt_of_le_of_lt (UInt32.le_iff_toNat_le.1 hc)
  have h : (c.isUpper || c.isLower || c.isDigit || c == '_') = true := h
  simp only [Bool.or_eq_true, beq_iff_eq] at h
  rcases h with ((h | h) | h) | rfl
  · exact hbelow (of_decide_eq_true h).2 (by decide)
  · exact hbelow (of_decide_eq_true (Bool.and_eq_true_iff.1 h).2) (by decide)
  · exact hbelow (of_decide_eq_true (Bool.and_eq_true_iff.1 h).2) (by decide)
  · decide

/-- What holds of those ASCII characters that may stand in an identifier holds of all such
characters. -/
@[elab_as_elim]
theorem of_ascii {P : Char → Prop} {c : Char} (hc : isIdentRest c = true)
    (h : ∀ n < 0x80, isIdentRest (Char.ofNat n) = true → P (Char.ofNat n)) : P c := by
  have hP := h c.toNat (toNat_lt_of_isIdentRest hc)
  rw [Char.ofNat_toNat] at hP
  exact hP hc

theorem plain_of_isIdentRest {c : Char} (h : isIdentRest c = true) :
    isBlank c = false ∧ c ≠ '/' :=
  of_ascii h (by decide +kernel)

theorem isIdentRest_of_isIdentStart {c : Char} (h : isIdentStart c = true) :
    isIdentRest c = true := by
  simp only [isIdentStart, isIdentRest, Char.isAlphanum, Bool.or_eq_true] at h ⊢
  exact h.imp_left .inl

theorem isIdentifier_iff {s : String} : isIdentifier s = true ↔
    (∃ c ∈ s.toList.head?, isIdentStart c = true) ∧ ∀ c ∈ s.toList, isIdentRest c = true := by
  unfold isIdentifier
  cases s.toList with
  | nil => simp
  | cons c cs =>
    simp only [Bool.and_eq_true, List.all_eq_true, List.head?_cons, Option.mem_some_iff,
      exists_eq_left', List.forall_mem_cons]
    exact and_congr_right fun hc => (and_iff_right (isIdentRest_of_isIdentStart hc)).symm

theorem exists_getLast?_of_isIdentifier {s : String} (h : isIdentifier s = true) :
    ∃ c, s.toList.getLast? = some c ∧ isIdentRest c = true := by
  obtain ⟨⟨c, hc, -⟩, hrest⟩ := isIdentifier_iff.1 h
  have hne : s.toList ≠ [] := List.ne_nil_of_mem (List.mem_of_mem_head? hc)
  have hlast := List.getLast?_eq_some_getLast hne
  exact ⟨_, hlast, hrest _ (List.mem_of_getLast? hlast)⟩

end Naming

namespace Module

variable {m : Module} (hv : m.report? = none)
include hv

theorem isIdentifier_of_mem_actionNames {action : String} (h : action ∈ m.actionNames) :
    Naming.isIdentifier action = true := by
  rcases List.mem_append.1 h with h | h
  · have himplicit : ∀ a ∈ implicitActions, Naming.isIdentifier a = true := by decide
    exact himplicit action h
  · have hp := (report?_eq_none_iff m).1 hv
    simp only [problems, List.append_eq_nil_iff, List.flatMap_eq_nil_iff] at hp
    obtain ⟨e, he, rfl⟩ := List.mem_map.1 (List.mem_filter.1 h).1
    have ha : e.2.problems m e.1 = [] := hp.1.2 e he
    simp only [Action.problems, List.append_eq_nil_iff, demand_eq_nil_iff] at ha
    exact ha.1.1

/-! ## Paths of claims -/

/-- A command ends with the name of an action, so with no slash. -/
theorem getLast?_command (command : String) {action : String} (h : action ∈ m.actionNames) :
    (trimmed s!"{command} {action}".toList).getLast? ≠ some '/' := by
  obtain ⟨c, hc, hrest⟩ :=
    Naming.exists_getLast?_of_isIdentifier (isIdentifier_of_mem_actionNames hv h)
  obtain ⟨hblank, hslash⟩ := Naming.plain_of_isIdentRest hrest
  have hlast : s!"{command} {action}".toList.getLast? = some c := by
    have haction : (toString action).toList.getLast? = some c := hc
    simp [String.toList_append, List.getLast?_append, haction]
  rw [getLast?_trimmed hlast hblank]
  exact fun he => hslash (Option.some.inj he)

theorem isNormal_claim_path {mode : EndpointMode} {plural : String} {c : Claim}
    (h : c ∈ m.claims mode plural) : Path.IsNormal c.path.toList := by
  by_cases ht : c.transport = .cli
  · rcases mem_claims_iff.1 h with ⟨-, h⟩ | ⟨-, h⟩ | ⟨-, rfl⟩ | ⟨-, rfl⟩ | ⟨-, h⟩
    · obtain ⟨method, path, action, rfl, -⟩ := mem_httpClaims h
      cases ht
    · obtain ⟨action, ha, rfl⟩ := List.mem_map.1 h
      show Path.IsNormal (Path.normalize _).toList
      rw [Path.normalize, String.toList_ofList]
      exact Path.isNormal_normalized (.inr (getLast?_command hv _ ha))
    · cases ht
    · cases ht
    · obtain ⟨action, -, rfl⟩ := List.mem_map.1 h
      cases ht
  · obtain ⟨path, habs, hpath⟩ := claim_path hv h ht
    rw [hpath, Path.normalize, String.toList_ofList]
    exact Path.isNormal_normalized (.inl (Path.toList_trim_head habs))

/-- Normalization leaves the path of a claim as it is. -/
theorem normalize_claim_path {mode : EndpointMode} {plural : String} {c : Claim}
    (h : c ∈ m.claims mode plural) : Path.normalize c.path = c.path :=
  Path.normalize_eq_self (isNormal_claim_path hv h)

/-- But for the command line the segments of a claim are canonical. -/
theorem isCanonical_of_mem_segments {mode : EndpointMode} {plural : String} {c : Claim}
    (h : c ∈ m.claims mode plural) (ht : c.transport ≠ .cli) {s : String} (hs : s ∈ c.segments) :
    Path.IsCanonical s.toList := by
  obtain ⟨path, habs, hpath⟩ := claim_path hv h ht
  rw [Claim.segments, hpath, Path.segments_normalize ht habs] at hs
  obtain ⟨l, hl, rfl⟩ := List.mem_map.1 hs
  rw [String.toList_ofList]
  exact Path.isCanonical_of_mem_segmentsOf hl

end Module

end Registrar
