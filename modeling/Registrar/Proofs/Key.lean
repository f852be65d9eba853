import Registrar.Claim

/-!
# What a key tells

A key is a tag, a colon and the address; over HTTP the address is a method, a colon and a path. No
tag holds a colon, so keys of different transports differ (`Transport.eq_of_key_eq`), and without a
method the key gives the path (`Transport.path_eq_of_key_eq`). A method may hold colons. Where the
one of a key does not, an HTTP key equals it either with the same method and path, or with a method
that runs on into the path (`Transport.key_http_eq_iff`).
-/

namespace Registrar

open Text

namespace Transport

/-! ## Tags -/

theorem append_colon_eq_iff {a b p q : List Char} (ha : ':' ∉ a) :
    b ++ ':' :: q = a ++ ':' :: p ↔
      (b = a ∧ q = p) ∨ ∃ s, b = a ++ ':' :: s ∧ p = s ++ ':' :: q := by
  constructor
  · intro h
    rcases List.append_eq_append_iff.1 h with ⟨s, hs, hq⟩ | ⟨s, hs, hp⟩
    · -- `b` ends within `a`, so at its end
      cases s with
      | nil =>
        rw [List.nil_append, List.cons.injEq] at hq
        exact .inl ⟨by simpa using hs.symm, hq.2⟩
      | cons c s =>
        rw [List.cons_append, List.cons.injEq] at hq
        exact absurd (by simp [hs, ← hq.1]) ha
    · cases s with
      | nil =>
        rw [List.nil_append, List.cons.injEq] at hp
        exact .inl ⟨by simpa using hs, hp.2.symm⟩
      | cons c s =>
        rw [List.cons_append, List.cons.injEq] at hp
        exact .inr ⟨s, by rw [hs, ← hp.1], hp.2⟩
  · rintro (⟨rfl, rfl⟩ | ⟨s, rfl, rfl⟩)
    · rfl
    · simp only [List.append_assoc, List.cons_append]

theorem colon_notMem_tag (t : Transport) : ':' ∉ t.tag.toList := by
  cases t <;> decide

theorem eq_of_tag_eq {t t' : Transport} (h : t.tag = t'.tag) : t = t' := by
  cases t <;> cases t' <;> first | rfl | exact absurd h (by decide)

theorem key_http (method : Option String) (path : String) :
    key http method path = "http:" ++ (method.map toUpper).getD "" ++ ":" ++ path := rfl

theorem toList_key_of_ne {t : Transport} (h : t ≠ http) (method : Option String) (path : String) :
    (t.key method path).toList = t.tag.toList ++ ':' :: path.toList := by
  cases t with
  | http => exact absurd rfl h
  | _ =>
    show (_ ++ ":" ++ path).toList = _
    simp only [String.toList_append, List.append_assoc]
    rfl

/-- A key begins with the tag and a colon. -/
theorem exists_toList_key (t : Transport) (method : Option String) (path : String) :
    ∃ rest, (t.key method path).toList = t.tag.toList ++ ':' :: rest := by
  by_cases h : t = http
  · subst h
    exact ⟨((method.map toUpper).getD "" ++ ":" ++ path).toList, by
      simp only [key_http, String.toList_append, List.append_assoc]; rfl⟩
  · exact ⟨path.toList, toList_key_of_ne h method path⟩

theorem eq_of_key_eq {t t' : Transport} {method method' : Option String} {path path' : String}
    (h : t.key method path = t'.key method' path') : t = t' := by
  obtain ⟨rest, hr⟩ := exists_toList_key t method path
  obtain ⟨rest', hr'⟩ := exists_toList_key t' method' path'
  rw [h, hr'] at hr
  rcases (append_colon_eq_iff (colon_notMem_tag t)).1 hr with ⟨htag, -⟩ | ⟨s, htag, -⟩
  · exact (eq_of_tag_eq (String.toList_injective htag)).symm
  · exact absurd (by simp [htag]) (colon_notMem_tag t')

/-! ## Addresses -/

theorem path_eq_of_key_eq {t : Transport} (ht : t ≠ http) {method method' : Option String}
    {path path' : String} (h : t.key method path = t.key method' path') : path = path' := by
  have hl := congrArg String.toList h
  rw [toList_key_of_ne ht, toList_key_of_ne ht, List.append_cancel_left_eq, List.cons.injEq] at hl
  exact String.toList_injective hl.2

/-- The key of a method without a colon is also that of a method which runs on into the path. -/
theorem key_http_eq_iff {a b p q : String} (ha : ':' ∉ (toUpper a).toList) :
    key http (some b) q = key http (some a) p ↔
      (toUpper b = toUpper a ∧ q = p) ∨
        ∃ s, toUpper b = toUpper a ++ ":" ++ s ∧ p = s ++ ":" ++ q := by
  have hcolon : ∀ s t : String, (s ++ ":" ++ t).toList = s.toList ++ ':' :: t.toList := by
    intro s t
    simp only [String.toList_append, List.append_assoc]
    rfl
  have hkey : key http (some b) q = key http (some a) p ↔
      (toUpper b).toList ++ ':' :: q.toList = (toUpper a).toList ++ ':' :: p.toList := by
    rw [key_http, key_http, ← String.toList_inj, hcolon, hcolon]
    simp [String.toList_append]
  rw [hkey, append_colon_eq_iff ha, String.toList_inj, String.toList_inj]
  refine or_congr_right ⟨fun ⟨s, hb, hp⟩ => ⟨String.ofList s, ?_, ?_⟩, fun ⟨s, hb, hp⟩ =>
    ⟨s.toList, by rw [hb, hcolon], by rw [hp, hcolon]⟩⟩
  · rw [← String.toList_inj, hcolon, String.toList_ofList, hb]
  · rw [← String.toList_inj, hcolon, String.toList_ofList, hp]

end Transport

theorem Claim.transport_eq_of_key_eq {c d : Claim} (h : c.key = d.key) :
    c.transport = d.transport :=
  Transport.eq_of_key_eq h

end Registrar
