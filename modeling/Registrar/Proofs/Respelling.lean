import Registrar.Proofs.Coverage
import Registrar.Proofs.Spelling
import Registrar.Proofs.UpperCase

/-!
# One address in many spellings

`Path.Names path ss` says that `ss` are the segments which a path names: its parts between slashes,
those without anything left out, each as it is read. `Path.Respelled p q` is one change to the
spelling of a path: a slash or a blank more next to a slash or at an end, or another way to write a
parameter. Paths that start with a slash name the same segments exactly if such changes turn one
into the other (`Path.eqvGen_respelled_iff`), since they turn each into a text made of its segments
(`Path.eqvGen_plainly`). A joined path names the segments of its base and then those of its suffix,
and so does its canonical form (`Path.names_normalize_join`). The key of an HTTP claim tells its
method and its segments, and nothing else (`http_keys_eq_iff`).
-/

namespace Registrar

open Text Relation

namespace Path

/-! ## The segments that a path names -/

/-- The path names these segments, one after the other. -/
def Names (path : String) (ss : List String) : Prop :=
  List.Forall₂ Reads ((parts path).filter (· ≠ "")) ss

/-- A part is read as one segment. -/
theorem reads_iff {s v : String} : Reads s v ↔ String.ofList (canonicalSegment s.toList) = v := by
  constructor
  · intro h
    cases h with
    | verbatim h => rw [canonicalSegment_of_not_spells h, String.ofList_toList]
    | parameter h =>
      rw [h.canonicalSegment_eq, ← String.toList_inj]
      simp [param, String.toList_append]
  · rintro rfl
    simpa using reads_canonicalSegment s.toList

theorem partsOf_eq (path : String) : partsOf path =
    ((parts path).filter (· ≠ "")).map fun s => String.ofList (canonicalSegment s.toList) := by
  have hempty : ∀ l : List Char, decide (String.ofList l ≠ "") = decide (l ≠ []) := fun l =>
    decide_eq_decide.2 (not_congr String.ofList_eq_empty_iff)
  simp only [partsOf, segmentsOf, parts, List.filter_map, List.map_map, Function.comp_def,
    String.toList_ofList, hempty]

/-- A path names one list of segments, those of its canonical form. -/
theorem names_iff {path : String} {ss : List String} : Names path ss ↔ partsOf path = ss := by
  have hreads : Reads = fun s v => String.ofList (canonicalSegment s.toList) = v := by
    funext s v
    exact propext reads_iff
  rw [Names, partsOf_eq, hreads, ← List.forall₂_map_left_iff, List.forall₂_eq_eq_eq]

/-! ## Respelling -/

/-- The text is a whole segment that stands for the parameter. -/
structure Denotes (s name : List Char) : Prop where
  written : s = param name ∨ Spells s name
  slash : '/' ∉ s
  trimmed : trimmed s = s

/-- One change to the spelling of a path. -/
inductive Respelled : List Char → List Char → Prop
  /-- A slash or a blank more after a slash. -/
  | after {c : Char} (hc : IsMargin c) (x y : List Char) :
    Respelled (x ++ '/' :: y) (x ++ '/' :: c :: y)
  /-- A blank more before a slash. -/
  | before {c : Char} (hc : isBlank c = true) (x y : List Char) :
    Respelled (x ++ '/' :: y) (x ++ c :: '/' :: y)
  /-- A blank more at the start. -/
  | first {c : Char} (hc : isBlank c = true) (p : List Char) : Respelled p (c :: p)
  /-- A slash or a blank more at the end. -/
  | last {c : Char} (hc : IsMargin c) (p : List Char) : Respelled p (p ++ [c])
  /-- A parameter written in another way. -/
  | parameter {s t name : List Char} (hs : Denotes s name) (ht : Denotes t name)
    (x y : List Char) : Respelled (x ++ '/' :: (s ++ '/' :: y)) (x ++ '/' :: (t ++ '/' :: y))

theorem Denotes.segmentsOf_eq {s name : List Char} (h : Denotes s name) :
    segmentsOf s = [param name] := by
  have hcanonical : canonicalSegment s = param name := by
    rcases h.written with rfl | hs
    · exact canonicalSegment_eq_self (by simp [param]) (by simp [param])
    · exact hs.canonicalSegment_eq
  have hne : s ≠ [] := by
    rintro rfl
    rcases h.written with hs | hs
    · cases hs
    · cases hs
  rw [segmentsOf_of_notMem h.slash, h.trimmed, if_neg hne, hcanonical]

theorem Respelled.segmentsOf_eq {p q : List Char} (h : Respelled p q) :
    segmentsOf p = segmentsOf q := by
  cases h with
  | after hc x y => rw [segmentsOf_append, segmentsOf_append, segmentsOf_cons hc]
  | @before c hc x y =>
    rw [segmentsOf_append, List.append_cons, segmentsOf_append, segmentsOf_concat (.inl hc)]
  | first hc => rw [segmentsOf_cons (.inl hc)]
  | last hc => rw [segmentsOf_concat hc]
  | parameter hs ht x y =>
    rw [segmentsOf_append, segmentsOf_append, segmentsOf_append, segmentsOf_append,
      hs.segmentsOf_eq, ht.segmentsOf_eq]

theorem segmentsOf_of_eqvGen {p q : List Char} (h : EqvGen Respelled p q) :
    segmentsOf p = segmentsOf q := by
  induction h with
  | rel _ _ h => exact h.segmentsOf_eq
  | refl _ => rfl
  | symm _ _ _ ih => exact ih.symm
  | trans _ _ _ _ _ ih ih' => exact ih.trans ih'

/-! ## A text made of the segments -/

/-- Each segment with a slash before it, and one more at the end. -/
def plainly (ss : List (List Char)) : List Char := '/' :: ss.flatMap (· ++ ['/'])

section
variable {b : List Char} (hb : ∀ c ∈ b, isBlank c = true) (x y : List Char)
include hb

/-- Where one blank can be added in front of others, any number of them can. -/
theorem eqvGen_blanks {f : List Char → List Char}
    (hf : ∀ c b, isBlank c = true → Respelled (f b) (f (c :: b))) :
    EqvGen Respelled (f []) (f b) := by
  induction b with
  | nil => exact .refl _
  | cons c b ih =>
    obtain ⟨hc, hb⟩ := List.forall_mem_cons.1 hb
    exact .trans _ _ _ (ih hb) (.rel _ _ (hf c b hc))

theorem eqvGen_blanks_first : EqvGen Respelled x (b ++ x) :=
  eqvGen_blanks hb (f := (· ++ x)) fun _ b hc => .first hc (b ++ x)

theorem eqvGen_blanks_after : EqvGen Respelled (x ++ '/' :: y) (x ++ '/' :: (b ++ y)) :=
  eqvGen_blanks hb (f := fun b => x ++ '/' :: (b ++ y)) fun _ b hc => .after (.inl hc) x (b ++ y)

theorem eqvGen_blanks_before : EqvGen Respelled (x ++ '/' :: y) (x ++ b ++ '/' :: y) := by
  -- the blank next to the slash comes first in the reversed list
  have hrev := eqvGen_blanks (b := b.reverse) (f := fun b => x ++ b.reverse ++ '/' :: y)
    (fun c hc => hb c (List.mem_reverse.1 hc)) fun c b hc => by
      simpa using Respelled.before hc (x ++ b.reverse) y
  simpa using hrev

end

theorem exists_blanks_trimmed (s : List Char) : ∃ b b', s = b ++ trimmed s ++ b' ∧
    (∀ c ∈ b, isBlank c = true) ∧ ∀ c ∈ b', isBlank c = true := by
  have hback : dropBlanks s = trimmed s ++ ((dropBlanks s).reverse.takeWhile isBlank).reverse := by
    rw [trimmed, ← List.reverse_append]
    exact List.reverse_eq_iff.1 (List.takeWhile_append_dropWhile (p := isBlank)).symm
  refine ⟨s.takeWhile isBlank, ((dropBlanks s).reverse.takeWhile isBlank).reverse, ?_,
    fun c hc => List.mem_takeWhile_imp hc,
    fun c hc => List.mem_takeWhile_imp (List.mem_reverse.1 hc)⟩
  rw [List.append_assoc, ← hback, dropBlanks, List.takeWhile_append_dropWhile]

/-- A part of a path can be trimmed. -/
theorem eqvGen_trimmed (x l y : List Char) :
    EqvGen Respelled (x ++ '/' :: (l ++ '/' :: y)) (x ++ '/' :: (trimmed l ++ '/' :: y)) := by
  obtain ⟨b, b', hl, hb, hb'⟩ := exists_blanks_trimmed l
  have hfront := eqvGen_blanks_after hb x (trimmed l ++ b' ++ '/' :: y)
  have hback := eqvGen_blanks_before hb' (x ++ '/' :: trimmed l) y
  have hwhole : x ++ '/' :: (l ++ '/' :: y) = x ++ '/' :: (b ++ (trimmed l ++ b' ++ '/' :: y)) := by
    nth_rewrite 1 [hl]
    simp only [List.append_assoc]
  rw [← hwhole] at hfront
  simp only [List.append_assoc, List.cons_append] at hfront hback
  exact .symm _ _ (.trans _ _ _ hback hfront)

/-- A trimmed part can be written as its segment. -/
theorem eqvGen_canonical {s : List Char} (hs : '/' ∉ s) (ht : trimmed s = s) (x y : List Char) :
    EqvGen Respelled (x ++ '/' :: (s ++ '/' :: y))
      (x ++ '/' :: (canonicalSegment s ++ '/' :: y)) := by
  by_cases h : ∃ name, Spells s name
  · obtain ⟨name, h⟩ := h
    have hne : s ≠ [] := by
      rintro rfl
      cases h
    have hparam : IsSegment (param name) := h.canonicalSegment_eq ▸ IsSegment.canonical ⟨hne, hs⟩
    rw [h.canonicalSegment_eq]
    exact .rel _ _ (.parameter ⟨.inr h, hs, ht⟩ ⟨.inl rfl, hparam.2, trimmed_param name⟩ x y)
  · rw [canonicalSegment_of_not_spells fun name hn => h ⟨name, hn⟩]
    exact .refl _

/-- The parts of a path can be written as the segments that they are read as. -/
theorem eqvGen_parts (x : List Char) {ls : List (List Char)} (hls : ∀ l ∈ ls, '/' ∉ l) :
    EqvGen Respelled (x ++ '/' :: ls.flatMap (· ++ ['/']))
      (x ++ plainly (((ls.map trimmed).filter (· ≠ [])).map canonicalSegment)) := by
  induction ls generalizing x with
  | nil => exact .refl _
  | cons l ls ih =>
    obtain ⟨hl, hls⟩ := List.forall_mem_cons.1 hls
    have htrim := eqvGen_trimmed x l (ls.flatMap (· ++ ['/']))
    have hslash : '/' ∉ trimmed l := fun hm => hl ((trimmed_sublist l).subset hm)
    rw [List.flatMap_cons, List.append_assoc, List.singleton_append, List.map_cons]
    refine .trans _ _ _ htrim ?_
    by_cases he : trimmed l = []
    · -- nothing is left between two slashes
      have hskip : Respelled (x ++ '/' :: ls.flatMap (· ++ ['/']))
          (x ++ '/' :: '/' :: ls.flatMap (· ++ ['/'])) := .after (.inr rfl) x _
      rw [he, List.nil_append, List.filter_cons_of_neg (by simp)]
      exact .trans _ _ _ (.symm _ _ (.rel _ _ hskip)) (ih x hls)
    · have hcanonical := eqvGen_canonical hslash (trimmed_trimmed l) x (ls.flatMap (· ++ ['/']))
      have hrest := ih (x ++ '/' :: canonicalSegment (trimmed l)) hls
      rw [List.filter_cons_of_pos (by simpa using he), List.map_cons]
      refine .trans _ _ _ hcanonical ?_
      simpa [plainly] using hrest

theorem flatMap_splitOn (s : List Char) : (s.splitOn '/').flatMap (· ++ ['/']) = s ++ ['/'] := by
  have hjoin : ∀ ls : List (List Char), ls ≠ [] →
      ls.flatMap (· ++ ['/']) = ['/'].intercalate ls ++ ['/'] := by
    intro ls hne
    induction ls with
    | nil => exact absurd rfl hne
    | cons l ls ih =>
      cases ls with
      | nil => simp
      | cons l' ls => rw [List.flatMap_cons, ih (by simp), List.intercalate_cons_cons]; simp
  rw [hjoin _ (List.splitOn_ne_nil _ _), List.intercalate_splitOn]

/-- A path that starts with a slash can be written with its segments alone. -/
theorem eqvGen_plainly {p : List Char} (h : (trimmed p).head? = some '/') :
    EqvGen Respelled p (plainly (segmentsOf p)) := by
  obtain ⟨t, ht⟩ := exists_append_trimmed p
  obtain ⟨y, hy⟩ : ∃ y, dropBlanks p = '/' :: y := by
    refine List.head?_eq_some_iff.1 ?_
    rw [← ht, List.head?_append, h]
    rfl
  have hp : p = p.takeWhile isBlank ++ '/' :: y := by
    rw [← hy, dropBlanks, List.takeWhile_append_dropWhile]
  have hstart : EqvGen Respelled ('/' :: y) p := by
    have hblanks := eqvGen_blanks_first (b := p.takeWhile isBlank)
      (fun c hc => List.mem_takeWhile_imp hc) ('/' :: y)
    rwa [← hp] at hblanks
  have hend : Respelled ('/' :: y) ('/' :: (y ++ ['/'])) := .last (.inr rfl) ('/' :: y)
  have hparts := eqvGen_parts [] fun l (hl : l ∈ y.splitOn '/') => notMem_of_mem_splitOn hl
  have hsegments : segmentsOf p = segmentsOf y := by
    rw [← segmentsOf_of_eqvGen hstart, segmentsOf_cons (.inr rfl)]
  rw [flatMap_splitOn] at hparts
  rw [hsegments]
  exact .trans _ _ _ (.symm _ _ hstart) (.trans _ _ _ (.rel _ _ hend) hparts)

theorem eqvGen_respelled_iff {p q : List Char} (hp : (trimmed p).head? = some '/')
    (hq : (trimmed q).head? = some '/') :
    EqvGen Respelled p q ↔ segmentsOf p = segmentsOf q := by
  refine ⟨segmentsOf_of_eqvGen, fun h => ?_⟩
  have hp' := eqvGen_plainly hp
  rw [h] at hp'
  exact .trans _ _ _ hp' (.symm _ _ (eqvGen_plainly hq))

/-! ## Joined paths -/

theorem names_join {base suffix : String} {ss ts : List String} (hb : Names base ss)
    (hs : Names suffix ts) : Names (join base suffix) (ss ++ ts) := by
  rw [names_iff] at hb hs ⊢
  rw [partsOf_join, hb, hs]

section
variable {path : String} (h : isAbsolute path = true) {ss : List String}
include h

theorem names_normalize_iff : Names (normalize path) ss ↔ Names path ss := by
  rw [names_iff, names_iff, partsOf_normalize h]

theorem normalize_eq_of_names (hn : Names path ss) : normalize path = ofSegments ss := by
  rw [normalize_eq_ofSegments h, names_iff.1 hn]

theorem segments_eq_of_names {t : Transport} (ht : t ≠ .cli) (hn : Names path ss) :
    t.segments (normalize path) = ss := by
  rw [segments_normalize ht h, segmentsOf_trimmed]
  exact names_iff.1 hn

end

/-- Below a base that starts with a slash, the canonical form of a joined path names the segments of
the base and then those of the suffix. Matching sees these segments, and there is nothing else in
it than one slash before each; it starts with a slash also where there are none. -/
theorem names_normalize_join {base : String} (h : base.toList.head? = some '/') (suffix : String) :
    ∃ ss ts, Names base ss ∧ Names suffix ts ∧
      Names (normalize (join base suffix)) (ss ++ ts) ∧
      Transport.http.segments (normalize (join base suffix)) = ss ++ ts ∧
      normalize (join base suffix) = ofSegments (ss ++ ts) ∧
      (normalize (join base suffix)).toList.head? = some '/' := by
  have habs : isAbsolute (join base suffix) = true := isAbsolute_of_head (head?_join h suffix)
  have hbase : Names base (partsOf base) := names_iff.2 rfl
  have hsuffix : Names suffix (partsOf suffix) := names_iff.2 rfl
  have hjoin := names_join hbase hsuffix
  exact ⟨_, _, hbase, hsuffix, (names_normalize_iff habs).2 hjoin,
    segments_eq_of_names habs (by decide) hjoin, normalize_eq_of_names habs hjoin,
    head?_normalize habs⟩

/-- Blanks between the slashes where the two meet name nothing. -/
theorem blanks_where_joined :
    "/ users/ /".toList.head? = some '/' ∧
    Names "/ users/ /" ["users"] ∧ Names " / <int:id>//:day " ["\x7bid\x7d", "\x7bday\x7d"] ∧
    Names (normalize (join "/ users/ /" " / <int:id>//:day "))
      ["users", "\x7bid\x7d", "\x7bday\x7d"] ∧
    normalize (join "/ users/ /" " / <int:id>//:day ") = "/users/\x7bid\x7d/\x7bday\x7d" := by
  have hhead : "/ users/ /".toList.head? = some '/' := by decide
  obtain ⟨ss, ts, hb, hs, hn, -, he, -⟩ := names_normalize_join hhead " / <int:id>//:day "
  have hss : ss = ["users"] := (names_iff.1 hb).symm.trans (by decide +kernel)
  have hts : ts = ["\x7bid\x7d", "\x7bday\x7d"] := (names_iff.1 hs).symm.trans (by decide +kernel)
  subst hss hts
  exact ⟨hhead, hb, hs, hn, he.trans (by decide +kernel)⟩

end Path

/-! ## Keys -/

theorem Claim.http_key (m p a b : String) : (Claim.http m p a b).key =
    Transport.key .http (some (toUpper (trim m))) (Path.normalize p) := rfl

theorem colon_notMem_upper {m : String} (h : ':' ∉ m.toList) :
    ':' ∉ (toUpper (toUpper (trim m))).toList := by
  rw [toUpper_toUpper]
  intro hm
  have htrim := colon_mem_of_toUpper hm
  rw [toList_trim] at htrim
  exact h ((trimmed_sublist _).subset htrim)

/-- A key tells the method and the canonical path. -/
theorem Claim.http_key_eq_iff {m n : String} (hm : ':' ∉ m.toList) (hn : ':' ∉ n.toList)
    (p q a b c d : String) : (Claim.http m p a b).key = (Claim.http n q c d).key ↔
      toUpper (trim m) = toUpper (trim n) ∧ Path.normalize p = Path.normalize q := by
  rw [http_key, http_key, Transport.key_http_eq_iff (colon_notMem_upper hn), toUpper_toUpper,
    toUpper_toUpper]
  refine or_iff_left ?_
  rintro ⟨s, hs, -⟩
  refine colon_notMem_upper hm ?_
  rw [toUpper_toUpper, hs]
  simp [String.toList_append]

theorem Path.normalize_eq_iff {p q : String} (hp : isAbsolute p = true)
    (hq : isAbsolute q = true) : normalize p = normalize q ↔ partsOf p = partsOf q := by
  constructor
  · intro h
    rw [← partsOf_normalize hp, h, partsOf_normalize hq]
  · intro h
    rw [normalize_eq_ofSegments hp, normalize_eq_ofSegments hq, h]

theorem Path.partsOf_eq_iff {p q : String} :
    partsOf p = partsOf q ↔ segmentsOf p.toList = segmentsOf q.toList :=
  (List.map_injective_iff.2 fun _ _ h => String.ofList_injective h).eq_iff

/-- HTTP claims with methods that hold no colon, on paths that start with a slash, have one key
exactly if the methods are the same in upper case and the paths name the same segments; and that
they do exactly if the one path is a respelling of the other. -/
theorem http_keys_eq_iff {m n p q : String} (hm : ':' ∉ m.toList) (hn : ':' ∉ n.toList)
    (hp : isAbsolute p = true) (hq : isAbsolute q = true) (a b c d : String) :
    ((Claim.http m p a b).key = (Claim.http n q c d).key ↔
      toUpper (trim m) = toUpper (trim n) ∧ ∃ ss, Path.Names p ss ∧ Path.Names q ss) ∧
    ((∃ ss, Path.Names p ss ∧ Path.Names q ss) ↔ EqvGen Path.Respelled p.toList q.toList) := by
  have hnames : (∃ ss, Path.Names p ss ∧ Path.Names q ss) ↔ Path.partsOf p = Path.partsOf q := by
    simp only [Path.names_iff]
    exact ⟨fun ⟨_, h, h'⟩ => h.trans h'.symm, fun h => ⟨_, rfl, h.symm⟩⟩
  rw [hnames, Claim.http_key_eq_iff hm hn, Path.normalize_eq_iff hp hq,
    Path.eqvGen_respelled_iff (Path.toList_trim_head hp) (Path.toList_trim_head hq),
    Path.partsOf_eq_iff]
  exact ⟨.rfl, .rfl⟩

theorem spellings_share_key :
    (Claim.http " get" " //users/ :id /" "a" "b").key =
      (Claim.http "GET" "/users/<int:id>" "c" "d").key ∧
    EqvGen Path.Respelled " //users/ :id /".toList "/users/<int:id>".toList := by
  have hkeys := http_keys_eq_iff (m := " get") (n := "GET") (p := " //users/ :id /")
    (q := "/users/<int:id>") (by decide) (by decide) (by decide +kernel) (by decide +kernel)
    "a" "b" "c" "d"
  have hkey : (Claim.http " get" " //users/ :id /" "a" "b").key =
      (Claim.http "GET" "/users/<int:id>" "c" "d").key := by decide +kernel
  exact ⟨hkey, hkeys.2.1 (hkeys.1.1 hkey).2⟩

end Registrar
