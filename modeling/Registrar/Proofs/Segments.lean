import Registrar.Proofs.Derived

/-!
# The segments of a path

`Path.IsSegment s`: the list `s` is not empty and holds no slash, so that lists of segments and
their joins with slashes determine each other. The canonical form of a path that starts with a slash
is the join of its segments after one slash (`Path.normalized_of_rooted`), and the segments that
matching compares are these again (`Path.segments_normalize`). But for the command line all claims
are made with such paths (`Module.claim_path`).
-/

namespace Registrar

open Text

/-! ## Blanks and slashes -/

theorem Text.head?_trimmed {s : List Char} {c : Char} (h : s.head? = some c)
    (hc : isBlank c = false) : (trimmed s).head? = some c := by
  obtain ⟨cs, rfl⟩ : ∃ cs, s = c :: cs := by
    cases s with
    | nil => cases h
    | cons d cs =>
      cases h
      exact ⟨cs, rfl⟩
  have hfirst : dropBlanks (c :: cs) = c :: cs := List.dropWhile_cons_of_neg (by simp [hc])
  have hlast : dropBlanks (cs.reverse ++ [c]) = dropBlanks cs.reverse ++ [c] := by
    unfold dropBlanks
    rw [List.dropWhile_append, List.dropWhile_cons_of_neg (by simp [hc])]
    split
    · rename_i he
      rw [List.isEmpty_iff.1 he, List.nil_append]
    · rfl
  rw [trimmed, hfirst, List.reverse_cons, hlast, List.reverse_append]
  rfl

theorem Text.trimmed_sublist (s : List Char) : (trimmed s).Sublist s := by
  unfold trimmed dropBlanks
  refine .trans ?_ (List.dropWhile_sublist isBlank)
  rw [← List.reverse_sublist, List.reverse_reverse]
  exact List.dropWhile_sublist isBlank

/-- The parts of a list hold its elements but for those at which it is split. -/
theorem mem_of_mem_splitOnP {α : Type} {p : α → Bool} {s l : List α} (h : l ∈ s.splitOnP p) :
    ∀ c ∈ l, c ∈ s ∧ p c = false := by
  induction s generalizing l with
  | nil =>
    rw [List.splitOnP_nil, List.mem_singleton] at h
    simp [h]
  | cons c s ih =>
    rw [List.splitOnP_cons_eq_if_modifyHead] at h
    split at h
    · rcases List.mem_cons.1 h with rfl | h
      · exact List.forall_mem_nil _
      · exact fun d hd => (ih h d hd).imp_left (List.mem_cons_of_mem _)
    · rename_i hc
      -- `c` goes to the first part, and the list is not split there
      cases hs : s.splitOnP p with
      | nil => simp [hs] at h
      | cons q qs =>
        rw [hs] at ih h
        rcases List.mem_cons.1 h with rfl | h
        · refine List.forall_mem_cons.2 ⟨⟨List.mem_cons_self, by simpa using hc⟩, fun d hd => ?_⟩
          exact (ih List.mem_cons_self d hd).imp_left (List.mem_cons_of_mem _)
        · exact fun d hd => (ih (List.mem_cons_of_mem _ h) d hd).imp_left (List.mem_cons_of_mem _)

theorem notMem_of_mem_splitOn {a : Char} {s l : List Char} (h : l ∈ s.splitOn a) : a ∉ l := by
  rw [List.splitOn_eq_splitOnP] at h
  exact fun ha => absurd (mem_of_mem_splitOnP h a ha).2 (by simp)

namespace Path

/-! ## Canonical segments -/

/-- What stands between two slashes of a path in its canonical form. -/
def IsSegment (s : List Char) : Prop := s ≠ [] ∧ '/' ∉ s

theorem afterColon_subset (s : List Char) : afterColon s ⊆ s := by
  intro c hc
  exact List.mem_reverse.1 (List.takeWhile_subset _ (List.mem_reverse.1 hc))

theorem isSegment_param {name : List Char} (h : '/' ∉ name) : IsSegment (param name) := by
  refine ⟨List.cons_ne_nil _ _, ?_⟩
  unfold param
  simp [h]

theorem IsSegment.canonical {s : List Char} (h : IsSegment s) : IsSegment (canonicalSegment s) := by
  unfold canonicalSegment
  split
  · rename_i c cs
    exact isSegment_param fun hm => h.2 (List.mem_cons_of_mem _ hm)
  · cases hn : angleName? s with
    | none => exact h
    | some name =>
      obtain ⟨inner, hi, rfl⟩ := Option.map_eq_some_iff.1 (Option.filter_eq_some_iff.1 hn).1
      refine isSegment_param fun hm => h.2 ?_
      rw [eq_of_between? hi]
      exact List.mem_append_left _ (List.mem_cons_of_mem _ (afterColon_subset inner hm))

theorem isSegment_of_mem_segmentsOf {s l : List Char} (h : l ∈ segmentsOf s) : IsSegment l := by
  obtain ⟨t, ht, rfl⟩ := List.mem_map.1 h
  obtain ⟨ht, hne⟩ := List.mem_filter.1 ht
  obtain ⟨p, hp, rfl⟩ := List.mem_map.1 ht
  exact IsSegment.canonical
    ⟨by simpa using hne, fun hm => notMem_of_mem_splitOn hp ((trimmed_sublist p).subset hm)⟩

/-! ## Paths that start with a slash -/

theorem normalized_of_rooted {p : List Char} (h : (trimmed p).head? = some '/') :
    normalized p = '/' :: ['/'].intercalate (segmentsOf (trimmed p)) := by
  have hm : '/' ∈ trimmed p := List.mem_of_mem_head? (by rw [h]; rfl)
  simp only [normalized, hm, h, if_true]

/-- Segments can be told from what they are joined to. -/
theorem splitOn_intercalate {ss : List (List Char)} (h : ∀ s ∈ ss, IsSegment s) :
    ((['/'].intercalate ss).splitOn '/').filter (· ≠ []) = ss := by
  cases hss : ss with
  | nil => decide
  | cons s rest =>
    have hne : ss ≠ [] := by simp [hss]
    rw [← hss, List.splitOn_intercalate '/' (fun l hl => (h l hl).2) hne, List.filter_eq_self]
    exact fun l hl => by simpa using (h l hl).1

theorem splitOn_join {ss : List (List Char)} (h : ∀ s ∈ ss, IsSegment s) :
    (('/' :: ['/'].intercalate ss).splitOn '/').filter (· ≠ []) = ss := by
  rw [List.splitOn_cons_eq_if_modifyHead, if_pos (by simp), List.filter_cons_of_neg (by simp),
    splitOn_intercalate h]

theorem toList_trim_head {path : String} (h : isAbsolute path = true) :
    (trimmed path.toList).head? = some '/' := by
  simpa [isAbsolute] using h

/-- What matching compares of a canonical path are its canonical segments. -/
theorem segments_normalize {t : Transport} (ht : t ≠ .cli) {path : String}
    (h : isAbsolute path = true) :
    t.segments (normalize path) = (segmentsOf (trimmed path.toList)).map String.ofList := by
  have hsplit := splitOn_join fun s (hs : s ∈ segmentsOf (trimmed path.toList)) =>
    isSegment_of_mem_segmentsOf hs
  have htoList : (normalize path).toList =
      '/' :: ['/'].intercalate (segmentsOf (trimmed path.toList)) := by
    rw [normalize, String.toList_ofList, normalized_of_rooted (toList_trim_head h)]
  cases t with
  | cli => exact absurd rfl ht
  | _ => simp only [Transport.segments, htoList, hsplit]

/-- A canonical path is a slash and its segments with slashes between them. -/
theorem toList_normalize {t : Transport} (ht : t ≠ .cli) {path : String}
    (h : isAbsolute path = true) :
    (normalize path).toList =
      '/' :: ['/'].intercalate ((t.segments (normalize path)).map String.toList) := by
  rw [segments_normalize ht h, List.map_map, normalize, String.toList_ofList,
    normalized_of_rooted (toList_trim_head h)]
  congr 2
  simp [Function.comp_def]

theorem isAbsolute_of_head {path : String} (h : path.toList.head? = some '/') :
    isAbsolute path = true := by
  simpa [isAbsolute] using head?_trimmed h (by decide)

theorem head?_normalize {path : String} (h : isAbsolute path = true) :
    (normalize path).toList.head? = some '/' := by
  rw [normalize, String.toList_ofList, normalized_of_rooted (toList_trim_head h)]
  rfl

theorem head?_join {base : String} (h : base.toList.head? = some '/') (suffix : String) :
    (join base suffix).toList.head? = some '/' := by
  rw [join, String.toList_ofList, joined]
  -- without its trailing slashes the base is empty or still begins with the first one
  have hbase : ∀ b, (base.toList.reverse.dropWhile (· = '/')).reverse = b →
      b = [] ∨ b.head? = some '/' := by
    rintro b rfl
    obtain ⟨t, ht⟩ := List.dropWhile_suffix (l := base.toList.reverse) fun c => decide (c = '/')
    have hb := congrArg List.reverse ht
    rw [List.reverse_append, List.reverse_reverse] at hb
    rw [← hb] at h
    cases hd : (base.toList.reverse.dropWhile (· = '/')).reverse with
    | nil => exact .inl rfl
    | cons c cs =>
      rw [hd] at h
      exact .inr h
  split
  · rfl
  · rename_i hne
    exact (hbase _ rfl).resolve_left hne
  · rcases hbase _ rfl with he | hh
    · rw [he]
      rfl
    · rw [List.head?_append, hh]
      rfl

end Path

/-! ## Paths of claims -/

namespace Module

variable {m : Module} (hv : m.report? = none)
include hv

theorem channelProblems_eq_nil : m.channelProblems = [] :=
  (List.append_eq_nil_iff.1 ((report?_eq_none_iff m).1 hv)).2

theorem head?_httpBase (plural : String) : (m.httpBase plural).toList.head? = some '/' := by
  have hc := channelProblems_eq_nil hv
  simp only [channelProblems, pathProblems, List.append_eq_nil_iff, List.flatMap_eq_nil_iff] at hc
  unfold httpBase
  split
  · rename_i base hb
    exact Path.head?_normalize (demand_eq_nil_iff.1 (hc.1.1.1.1.1 base (by simp [hb])))
  · simp [String.toList_append]

/-- The path of an HTTP claim is the canonical form of one that starts with a slash. -/
theorem httpClaim_path {mode : EndpointMode} {plural : String} {c : Claim}
    (h : c ∈ m.httpClaims mode plural) :
    ∃ path, isAbsolute path = true ∧ c.path = Path.normalize path := by
  have hbase := head?_httpBase hv plural
  have hitem := Path.head?_join hbase "\x7bid\x7d"
  rcases List.mem_append.1 h with h | h
  · split at h
    · cases h
    · rcases List.mem_append.1 h with h | h
      · simp only [List.mem_cons, List.not_mem_nil, or_false] at h
        rcases h with rfl | rfl | rfl | rfl | rfl
        · exact ⟨_, Path.isAbsolute_of_head hbase, rfl⟩
        · exact ⟨_, Path.isAbsolute_of_head hbase, rfl⟩
        · exact ⟨_, Path.isAbsolute_of_head hitem, rfl⟩
        · exact ⟨_, Path.isAbsolute_of_head hitem, rfl⟩
        · exact ⟨_, Path.isAbsolute_of_head hitem, rfl⟩
      · obtain ⟨action, -, rfl⟩ := List.mem_map.1 h
        exact ⟨_, Path.isAbsolute_of_head (Path.head?_join hitem action), rfl⟩
  · obtain ⟨e, he, rfl⟩ := List.mem_map.1 h
    exact ⟨_, (endpoint_sound hv he).2.1, rfl⟩

/-- Off the command line the path of a claim is the canonical form of one that starts with a
slash. -/
theorem claim_path {mode : EndpointMode} {plural : String} {c : Claim}
    (h : c ∈ m.claims mode plural) (ht : c.transport ≠ .cli) :
    ∃ path, isAbsolute path = true ∧ c.path = Path.normalize path := by
  have hc := channelProblems_eq_nil hv
  simp only [channelProblems, pathProblems, List.append_eq_nil_iff, List.flatMap_eq_nil_iff,
    Option.mem_toList, demand_eq_nil_iff] at hc
  obtain ⟨⟨⟨⟨⟨-, hsocket⟩, hhook⟩, -⟩, -⟩, -⟩ := hc
  rcases mem_claims_iff.1 h with ⟨-, h⟩ | ⟨-, h⟩ | ⟨-, rfl⟩ | ⟨-, rfl⟩ | ⟨-, h⟩
  · exact httpClaim_path hv h
  · obtain ⟨action, -, rfl⟩ := List.mem_map.1 h
    exact absurd rfl ht
  · refine ⟨_, ?_, rfl⟩
    cases hp : m.channels.websocket.path with
    | some path => exact hsocket path hp
    | none => exact Path.isAbsolute_of_head (by simp [String.toList_append])
  · refine ⟨_, ?_, rfl⟩
    cases hp : m.channels.webhook.path with
    | some path => exact hhook path hp
    | none => exact Path.isAbsolute_of_head (by simp [String.toList_append])
  · obtain ⟨action, -, rfl⟩ := List.mem_map.1 h
    have hslash : (toString "/").toList.head? = some '/' := rfl
    exact ⟨_, Path.isAbsolute_of_head (by simp [String.toList_append, hslash]), rfl⟩

end Module

end Registrar
