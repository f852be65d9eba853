import Registrar.Proofs.Joining

/-!
# Normalizing twice

A path that normalization leaves without a slash, though it had one, is read as a command the next
time (`Path.Bared`), and its blanks are then made single spaces. This is the only way in which the
canonical form of a path is not its own canonical form, and the canonical form of that is
(`Path.normalize_twice_iff`).
-/

namespace Registrar.Path

open Text

/-- Words with single spaces between them. -/
def IsCommand (s : List Char) : Prop := ∃ ws, (∀ w ∈ ws, IsWord w) ∧ s = [' '].intercalate ws

/-- Normalization takes all slashes of the path and leaves the segment `s` alone: no slash begins
the path, blanks aside, and none stands between two segments. -/
structure Bared (p s : List Char) : Prop where
  slash : '/' ∈ p
  relative : (trimmed p).head? ≠ some '/'
  alone : segmentsOf p = [s]

theorem isCommand_iff {s : List Char} : IsCommand s ↔ [' '].intercalate (wordsOf s) = s := by
  constructor
  · rintro ⟨ws, hws, rfl⟩
    rw [wordsOf_join hws]
  · exact fun h => ⟨wordsOf s, fun w hw => (mem_wordsOf hw).1, h.symm⟩

theorem isNormal_of_no_slash {p : List Char} (h : '/' ∉ p) : IsNormal (normalized p) := by
  rw [normalized_of_no_slash h]
  exact .command (fun w hw => (mem_wordsOf hw).1) fun w hw hm => h ((mem_wordsOf hw).2 hm)

theorem normalized_of_relative {p : List Char} (hslash : '/' ∈ p)
    (hroot : (trimmed p).head? ≠ some '/') :
    normalized p = ['/'].intercalate (segmentsOf p) := by
  have hslash' : '/' ∈ trimmed p := (mem_trimmed_iff (by decide)).2 hslash
  simp only [normalized, hslash', hroot, if_true, if_false, segmentsOf_trimmed]

namespace Bared

variable {p s : List Char} (h : Bared p s)
include h

theorem slash_notMem : '/' ∉ s :=
  (isSegment_of_mem_segmentsOf (h.alone ▸ List.mem_singleton_self s)).2

theorem normalized : normalized p = s := by
  rw [normalized_of_relative h.slash h.relative, h.alone, List.intercalate_singleton]

end Bared

/-- A canonical form is in normal form unless it is a segment that was left alone. -/
theorem isNormal_or_bared (p : List Char) : IsNormal (normalized p) ∨ ∃ s, Bared p s := by
  by_cases hslash : '/' ∈ p
  · by_cases hroot : (trimmed p).head? = some '/'
    · exact .inl (isNormal_normalized (.inl hroot))
    · have hcan : ∀ s ∈ segmentsOf p, IsCanonical s := fun s => isCanonical_of_mem_segmentsOf
      rw [normalized_of_relative hslash hroot]
      cases hs : segmentsOf p with
      | nil => exact .inl (.command (List.forall_mem_nil _) (List.forall_mem_nil _))
      | cons s ss =>
        cases ss with
        | nil => exact .inr ⟨s, hslash, hroot, hs⟩
        | cons t ss => exact .inl (.relative (hs ▸ hcan))
  · exact .inl (isNormal_of_no_slash hslash)

theorem isNormal_normalized_twice (p : List Char) : IsNormal (normalized (normalized p)) := by
  rcases isNormal_or_bared p with h | ⟨s, hs⟩
  · rwa [h.normalized]
  · rw [hs.normalized]
    exact isNormal_of_no_slash hs.slash_notMem

theorem normalized_twice_iff (p : List Char) :
    normalized (normalized p) = normalized p ↔ ∀ s, Bared p s → IsCommand s := by
  -- a segment that is left alone is a command to normalization
  have hagain : ∀ s, Bared p s →
      (normalized (normalized p) = normalized p ↔ IsCommand s) := by
    intro s hs
    rw [hs.normalized, normalized_of_no_slash hs.slash_notMem, isCommand_iff]
  constructor
  · exact fun h s hs => (hagain s hs).1 h
  · intro h
    rcases isNormal_or_bared p with hn | ⟨s, hs⟩
    · exact hn.normalized
    · exact (hagain s hs).2 (h s hs)

/-- The canonical form of a path is its own canonical form unless it is a segment that was left
alone and its words are not separated by single spaces. Normalizing once more always settles it. -/
theorem normalize_twice_iff (p : String) :
    (normalize (normalize p) = normalize p ↔ ∀ s, Bared p.toList s → IsCommand s) ∧
      normalize (normalize (normalize p)) = normalize (normalize p) := by
  simp only [normalize, String.toList_ofList, String.ofList_inj]
  exact ⟨normalized_twice_iff p.toList, (isNormal_normalized_twice p.toList).normalized⟩

/-- A slash at the end keeps the blanks of the only segment from being made one. -/
theorem lone_segment_respaced :
    normalize "a  b/" = "a  b" ∧ normalize (normalize "a  b/") = "a b" := by
  decide

end Registrar.Path
