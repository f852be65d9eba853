import Registrar.Text.Blank

/-!
# Paths

A path is a text of segments between slashes, or, where it holds no slash, a command of words
between blanks. `normalize` gives its canonical form: blanks around segments and empty segments
dropped, and every way of writing a parameter (`:id`, `<id>`, `<int:id>`) turned into `{id}`. In
that form a parameter is a name in braces (`IsParam`).
-/

namespace Registrar.Path

open Text

/-! ## Segments -/

/-- The parameter segment of the given name. -/
def param (name : List Char) : List Char := '\x7b' :: name ++ ['\x7d']

/-- What a list holds between its first element and its last, where these are `l` and `r`. -/
def between? (l r : Char) : List Char → Option (List Char)
  | [] => none
  | c :: cs =>
    match cs.reverse with
    | [] => none
    | d :: ds => if c = l ∧ d = r then some ds.reverse else none

theorem between?_append (l r : Char) (s : List Char) : between? l r (l :: s ++ [r]) = some s := by
  simp [between?]

theorem eq_of_between? {l r : Char} {s t : List Char} (h : between? l r s = some t) :
    s = l :: t ++ [r] := by
  cases s with
  | nil => cases h
  | cons c cs =>
    simp only [between?] at h
    cases hrev : cs.reverse with
    | nil =>
      rw [hrev] at h
      cases h
    | cons d ds =>
      rw [hrev, Option.ite_none_right_eq_some, Option.some.injEq] at h
      obtain ⟨⟨rfl, rfl⟩, rfl⟩ := h
      rw [← List.reverse_reverse cs, hrev, List.reverse_cons, List.cons_append]

/-- What follows the last colon, or the whole list where it holds none. -/
def afterColon (s : List Char) : List Char := (s.reverse.takeWhile (· ≠ ':')).reverse

/-- The name between `<` and `>`, without the type that a colon sets off. -/
def angleName? (s : List Char) : Option (List Char) :=
  (between? '<' '>' s).map afterColon |>.filter (· ≠ [])

/-- The segment with its parameter, if it is one, written `{name}`. -/
def canonicalSegment (s : List Char) : List Char :=
  match s with
  | ':' :: c :: cs => param (c :: cs)
  | _ => ((angleName? s).map param).getD s

/-- The segments of a path: trimmed, none empty, parameters written `{name}`. -/
def segmentsOf (s : List Char) : List (List Char) :=
  (((s.splitOn '/').map trimmed).filter (· ≠ [])).map canonicalSegment

/-- The name in a `{name}` segment. -/
def paramName? (s : List Char) : Option (List Char) :=
  (between? '\x7b' '\x7d' s).filter (· ≠ [])

/-! ## Normal form -/

/-- The canonical form of a path, as a list. -/
def normalized (path : List Char) : List Char :=
  let s := trimmed path
  if '/' ∈ s then
    let body := ['/'].intercalate (segmentsOf s)
    if s.head? = some '/' then '/' :: body else body
  else [' '].intercalate (wordsOf s)

/-- The canonical form of a path. -/
def normalize (path : String) : String := String.ofList (normalized path.toList)

/-- The parameter name of a path that is one `{name}` segment. -/
def paramName (segment : String) : Option String :=
  (paramName? segment.toList).map String.ofList

/-! ## Parameters -/

/-- The segment is a parameter: a name in braces. -/
def IsParam (segment : String) : Prop :=
  ∃ name : String, name ≠ "" ∧ segment = "\x7b" ++ name ++ "\x7d"

theorem paramName?_eq_some_iff {s name : List Char} :
    paramName? s = some name ↔ name ≠ [] ∧ s = param name := by
  rw [paramName?, Option.filter_eq_some_iff, decide_eq_true_eq, and_comm]
  refine and_congr_right fun _ => ⟨eq_of_between?, ?_⟩
  rintro rfl
  exact between?_append _ _ _

theorem paramName_eq_some_iff {s name : String} :
    paramName s = some name ↔ name ≠ "" ∧ s = "\x7b" ++ name ++ "\x7d" := by
  have hparam : s.toList = param name.toList ↔ s = "\x7b" ++ name ++ "\x7d" := by
    rw [← String.toList_inj, String.toList_append, String.toList_append]
    rfl
  rw [← hparam, ne_eq, ← String.toList_eq_nil_iff, ← ne_eq, ← paramName?_eq_some_iff, paramName,
    Option.map_eq_some_iff]
  constructor
  · rintro ⟨cs, hcs, rfl⟩
    rwa [String.toList_ofList]
  · exact fun h => ⟨_, h, String.ofList_toList⟩

/-- A parameter is its name in braces. -/
theorem toList_of_paramName {s name : String} (h : paramName s = some name) :
    s.toList = param name.toList := by
  rw [(paramName_eq_some_iff.1 h).2, String.toList_append, String.toList_append]
  rfl

theorem isSome_paramName_iff {s : String} : (paramName s).isSome = true ↔ IsParam s := by
  simp only [Option.isSome_iff_exists, paramName_eq_some_iff, IsParam]

instance : DecidablePred IsParam := fun _ => decidable_of_iff _ isSome_paramName_iff

/-! ## Joining -/

/-- The base without its trailing slashes, one slash, and the suffix without its leading ones. -/
def joined (base suffix : List Char) : List Char :=
  let base := (base.reverse.dropWhile (· = '/')).reverse
  match suffix.dropWhile (· = '/'), base with
  | [], [] => ['/']
  | [], base => base
  | suffix, base => base ++ '/' :: suffix

/-- A base path and a relative suffix with exactly one slash between them. -/
def join (base suffix : String) : String := String.ofList (joined base.toList suffix.toList)

end Registrar.Path
