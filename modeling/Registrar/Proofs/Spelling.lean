import Registrar.Proofs.Isolation
import Registrar.Proofs.Parameters

/-!
# What requests write for parameters

`Path.Spells s name`: the text `s` is one of the ways to write the parameter `name` that
normalization turns into `{name}`. Requests are normalized as declared paths are, so a value may be
spelled like a parameter, and `Path.Reads s v` says as what: a part of a request that spells a
parameter reads as that in braces, and any other as it stands (`Path.reads_canonicalSegment`). The
values that a look-up captures are what the parts of the request read as; where it has no slash, it
is one part, with single spaces between its words (`captured_as_read`).
-/

namespace Registrar

open Text

namespace Path

/-! ## Spellings -/

/-- The text is a way to write the parameter of the name other than in braces. -/
inductive Spells : List Char → List Char → Prop
  | colon {name : List Char} (h : name ≠ []) : Spells (':' :: name) name
  | angle {name : List Char} (h : name ≠ []) (hc : ':' ∉ name) : Spells ('<' :: name ++ ['>']) name
  | typed {type name : List Char} (h : name ≠ []) (hc : ':' ∉ name) :
    Spells ('<' :: (type ++ ':' :: name) ++ ['>']) name

theorem afterColon_of_notMem {s : List Char} (h : ':' ∉ s) : afterColon s = s := by
  rw [afterColon, List.takeWhile_eq_self_iff.2, List.reverse_reverse]
  intro c hc
  have hne : c ≠ ':' := fun he => h (he ▸ List.mem_reverse.1 hc)
  simpa using hne

theorem afterColon_append {s : List Char} (h : ':' ∉ s) (t : List Char) :
    afterColon (t ++ ':' :: s) = s := by
  have hrev : (t ++ ':' :: s).reverse = s.reverse ++ ':' :: t.reverse := by simp
  rw [afterColon, hrev, List.takeWhile_append_of_pos, List.takeWhile_cons_of_neg (by simp),
    List.append_nil, List.reverse_reverse]
  intro c hc
  have hne : c ≠ ':' := fun he => h (he ▸ List.mem_reverse.1 hc)
  simpa using hne

theorem canonicalSegment_angle {inner name : List Char} (hn : afterColon inner = name)
    (hne : name ≠ []) : canonicalSegment ('<' :: inner ++ ['>']) = param name := by
  have hangle : angleName? ('<' :: inner ++ ['>']) = some name := by
    rw [angleName?, between?_append, Option.map_some, hn, Option.filter_some, if_pos (by simpa)]
  rw [canonicalSegment]
  · rw [hangle]
    rfl
  · intro c cs h
    cases h

/-- A spelling of a parameter becomes the parameter. -/
theorem Spells.canonicalSegment_eq {s name : List Char} (h : Spells s name) :
    canonicalSegment s = param name := by
  cases h with
  | colon h =>
    obtain ⟨c, cs, rfl⟩ := List.exists_cons_of_ne_nil h
    rfl
  | angle h hc => exact canonicalSegment_angle (afterColon_of_notMem hc) h
  | typed h hc => exact canonicalSegment_angle (afterColon_append hc _) h

/-- What is in angles spells what follows the last colon. -/
theorem spells_angle {inner : List Char} (h : afterColon inner ≠ []) :
    Spells ('<' :: inner ++ ['>']) (afterColon inner) := by
  by_cases hc : ':' ∈ inner
  · obtain ⟨name, type, hrev, hname⟩ := List.eq_append_cons_of_mem (List.mem_reverse.2 hc)
    have hinner : inner = type.reverse ++ ':' :: name.reverse := by
      rw [← List.reverse_reverse inner, hrev]
      simp
    have hname : ':' ∉ name.reverse := fun hm => hname (List.mem_reverse.1 hm)
    rw [hinner, afterColon_append hname] at h ⊢
    exact .typed h hname
  · rw [afterColon_of_notMem hc] at h ⊢
    exact .angle h hc

/-- A text that spells no parameter stays as it is. -/
theorem canonicalSegment_of_not_spells {s : List Char} (h : ∀ name, ¬ Spells s name) :
    canonicalSegment s = s := by
  unfold canonicalSegment
  split
  · rename_i c cs
    exact absurd (.colon (List.cons_ne_nil c cs)) (h (c :: cs))
  · cases hn : angleName? s with
    | none => rfl
    | some name =>
      obtain ⟨hmap, hne⟩ := Option.filter_eq_some_iff.1 hn
      obtain ⟨inner, hi, rfl⟩ := Option.map_eq_some_iff.1 hmap
      rw [eq_of_between? hi] at h
      exact absurd (spells_angle (of_decide_eq_true hne)) (h _)

/-! ## Parts of a request -/

/-- The parts of a path between slashes, without the blanks around them. -/
def parts (path : String) : List String :=
  (path.toList.splitOn '/').map fun s => String.ofList (trimmed s)

/-- As what a part of a request is read: in braces if it spells a parameter, and else verbatim. -/
inductive Reads : String → String → Prop
  | verbatim {s : String} (h : ∀ name, ¬ Spells s.toList name) : Reads s s
  | parameter {s name : String} (h : Spells s.toList name.toList) :
    Reads s ("\x7b" ++ name ++ "\x7d")

theorem reads_canonicalSegment (s : List Char) :
    Reads (String.ofList s) (String.ofList (canonicalSegment s)) := by
  by_cases h : ∃ name, Spells s name
  · obtain ⟨name, h⟩ := h
    have hparam : String.ofList (param name) = "\x7b" ++ String.ofList name ++ "\x7d" := by
      rw [← String.toList_inj]
      simp [param, String.toList_append]
    rw [h.canonicalSegment_eq, hparam]
    exact .parameter (by simpa using h)
  · have hnone : ∀ name, ¬ Spells s name := fun name hs => h ⟨name, hs⟩
    rw [canonicalSegment_of_not_spells hnone]
    exact .verbatim (by simpa using hnone)

theorem exists_reads {path : String} {l : List Char} (h : l ∈ segmentsOf path.toList) :
    ∃ s ∈ parts path, Reads s (String.ofList l) := by
  obtain ⟨s, hs, rfl⟩ := List.mem_map.1 h
  obtain ⟨p, hp, rfl⟩ := List.mem_map.1 (List.mem_filter.1 hs).1
  exact ⟨_, List.mem_map.2 ⟨p, hp, rfl⟩, reads_canonicalSegment _⟩

/-! ## Segments of requests -/

section
variable {t : Transport} (ht : t ≠ .cli) {path : String}
include ht

/-- A request with a slash has the segments of its parts, whether it starts with one or not. -/
theorem segments_of_slash (h : '/' ∈ path.toList) :
    t.segments (normalize path) = (segmentsOf path.toList).map String.ofList := by
  have hslash : '/' ∈ trimmed path.toList := (mem_trimmed_iff (by decide)).2 h
  have hseg : ∀ s ∈ segmentsOf (trimmed path.toList), IsSegment s :=
    fun s hs => isSegment_of_mem_segmentsOf hs
  have hsplit : ((normalize path).toList.splitOn '/').filter (· ≠ []) =
      segmentsOf (trimmed path.toList) := by
    rw [normalize, String.toList_ofList]
    simp only [normalized, hslash, if_true]
    split
    · exact splitOn_join hseg
    · exact splitOn_intercalate hseg
  rw [segmentsOf_trimmed] at hsplit
  cases t with
  | cli => exact absurd rfl ht
  | _ => simp only [Transport.segments, hsplit]

/-- A request without a slash is one segment at most, its words with single spaces between them. -/
theorem mem_segments_of_no_slash (h : '/' ∉ path.toList) {s : String}
    (hs : s ∈ t.segments (normalize path)) : s = " ".intercalate (words path) := by
  have hnorm : (normalize path).toList = [' '].intercalate (wordsOf path.toList) := by
    rw [normalize, String.toList_ofList, normalized_of_no_slash h]
  have hno : '/' ∉ (normalize path).toList := by
    rw [hnorm]
    intro hm
    rcases mem_intercalate hm with hm | ⟨w, hw, hm⟩
    · exact absurd hm (by decide)
    · exact h ((mem_wordsOf hw).2 hm)
  have hone : s = normalize path := by
    cases t with
    | cli => exact absurd rfl ht
    | _ =>
      simp only [Transport.segments, List.splitOn_eq_singleton hno, List.mem_map] at hs
      obtain ⟨l, hl, rfl⟩ := hs
      rw [List.mem_singleton.1 (List.mem_filter.1 hl).1, String.ofList_toList]
  rw [hone, ← String.toList_inj, hnorm, String.toList_intercalate, words, List.map_map]
  simp [Function.comp_def]

end

end Path

/-! ## What a look-up captures -/

theorem Claim.mem_of_capture {ss rs : List String} {found params : Dict String}
    (h : capture ss rs found = some params) {v : String} (hv : v ∈ params.values) :
    v ∈ rs ∨ v ∈ found.values := by
  induction ss generalizing rs found with
  | nil => exact .inr ((capture_nil h).2 ▸ hv)
  | cons s ss ih =>
    obtain ⟨r, rs, rfl, ⟨name, -, hrest⟩ | ⟨-, -, hrest⟩⟩ := capture_cons h
    · rcases ih hrest with hm | hm
      · exact .inl (List.mem_cons_of_mem _ hm)
      · obtain ⟨k, hk⟩ := Dict.mem_values_iff.1 hm
        rw [Dict.get?_insert] at hk
        split at hk
        · exact .inl (Option.some.inj hk ▸ List.mem_cons_self)
        · exact .inr (Dict.mem_values_iff.2 ⟨k, hk⟩)
    · exact (ih hrest).imp_left (List.mem_cons_of_mem _)

/-- What is captured by a look-up are segments of the request. -/
theorem Registry.mem_segments_of_lookup {r : Registry} (h : r.Coherent) {t : Transport}
    {method path : String} {m : Match} (hm : r.lookup t method path = some m) {v : String}
    (hv : v ∈ m.params.values) : v ∈ t.segments (Path.normalize path) := by
  obtain ⟨hheld, hc | he⟩ := captured_of_lookup h hm
  · rw [Claim.captures?, ((mem_claims_iff h).1 hheld).1] at hc
    exact (Claim.mem_of_capture hc hv).resolve_right List.not_mem_nil
  · rw [he] at hv
    exact absurd hv List.not_mem_nil

/-- But for the command line, each value that a look-up captures is what a part of the request
reads as: the part verbatim, unless it spells a parameter, and that parameter in braces if it does.
A request without a slash is captured with single spaces between its words. -/
theorem captured_as_read {config : Config} {r : Registry} (hr : Reachable config r) {t : Transport}
    (ht : t ≠ .cli) {method path : String} {m : Match} (hm : r.lookup t method path = some m)
    {v : String} (hv : v ∈ m.params.values) :
    ('/' ∈ path.toList ∧ ∃ s ∈ Path.parts path, Path.Reads s v) ∨
      ('/' ∉ path.toList ∧ v = " ".intercalate (words path)) := by
  have hseg := Registry.mem_segments_of_lookup hr.coherent hm hv
  by_cases hslash : '/' ∈ path.toList
  · rw [Path.segments_of_slash ht hslash] at hseg
    obtain ⟨l, hl, rfl⟩ := List.mem_map.1 hseg
    exact .inl ⟨hslash, Path.exists_reads hl⟩
  · exact .inr ⟨hslash, Path.mem_segments_of_no_slash ht hslash hseg⟩

/-- A colon within a part spells nothing. -/
theorem inner_colon_kept :
    Reachable {} noteRegistry ∧ ∃ m, noteRegistry.lookup .http "get" " notes// a:7 /" = some m ∧
      "a:7" ∈ m.params.values ∧ Path.parts " notes// a:7 /" = ["notes", "", "a:7", ""] ∧
      ∃ s ∈ Path.parts " notes// a:7 /", Path.Reads s "a:7" := by
  have hr : Reachable {} noteRegistry := .run (.start rfl) _
  let m : Match := ⟨.http "GET" "/notes/:id" "note" "get", .insert ∅ "id" "a:7"⟩
  have hm : noteRegistry.lookup .http "get" " notes// a:7 /" = some m := by decide +kernel
  have hv : "a:7" ∈ m.params.values := by decide +kernel
  refine ⟨hr, m, hm, hv, by decide +kernel, ?_⟩
  rcases captured_as_read hr (by decide) hm hv with ⟨-, h⟩ | ⟨h, -⟩
  · exact h
  · exact absurd (by decide) h

/-- A module with an endpoint for any one segment. -/
def labelModule : Module where
  name := "label"
  schema := .ofList [("title", { type := "string" })]
  channels := { http := { enabled := true, endpoints := [⟨"GET", "/:name", "get"⟩] } }

/-- A registry with this one module. -/
def labelRegistry : Registry := (({} : Registry).run [.register labelModule]).1

/-- What is captured need not be a part of the request as it stands: a colon at its beginning and
blanks within it where there is no slash are rewritten. -/
theorem parts_rewritten :
    Reachable {} labelRegistry ∧
    (∃ m, labelRegistry.lookup .http "GET" "/:7" = some m ∧ "\x7b7\x7d" ∈ m.params.values ∧
      Path.parts "/:7" = ["", ":7"]) ∧
    ∃ m, labelRegistry.lookup .http "GET" "a  7" = some m ∧ "a 7" ∈ m.params.values ∧
      Path.parts "a  7" = ["a  7"] := by
  have hr : Reachable {} labelRegistry := .run (.start rfl) _
  let c : Claim := .http "GET" "/:name" "label" "get"
  have hcolon :
      labelRegistry.lookup .http "GET" "/:7" = some ⟨c, .insert ∅ "name" "\x7b7\x7d"⟩ := by
    decide +kernel
  have hblanks : labelRegistry.lookup .http "GET" "a  7" = some ⟨c, .insert ∅ "name" "a 7"⟩ := by
    decide +kernel
  exact ⟨hr, ⟨_, hcolon, by decide +kernel, by decide +kernel⟩,
    ⟨_, hblanks, by decide +kernel, by decide +kernel⟩⟩

end Registrar
