import Registrar.Json.Reader
import Registrar.Json.Printer
import Registrar.Proofs.Nesting
import Registrar.Proofs.Numerals

/-!
# JSON values are read back

`Reads r cs a`: the reader `r` gets `a` from the characters `cs`, with blanks before them and any
text after them, as long as that text does not go on with a number. Printed values are read back
(`reads_value`) where their objects list their members by key and no more containers are nested than
a reader may enter. The parts come first: strings, then the items of an array and the members of an
object for any reader of what they hold, so that lists, dictionaries and records share them.
-/

namespace Registrar.Json

/-! ## Strings -/

theorem hexUnit?_control : ∀ n, n < 0x20 →
    hexUnit? '0' '0' (hexDigit (n / 16)) (hexDigit (n % 16)) = some n ∧ isTrail n = false ∧
      isLead n = false := by
  decide

/-- A character is read from what stands for it. -/
theorem readChars_escape (c : Char) (rest : List Char) (o : Nat) :
    ∃ o', readChars (escape c ++ rest) o = andThen c (readChars rest o') := by
  unfold escape
  -- the seven characters with an escape of their own
  iterate 7
    split
    · subst_vars
      exact ⟨_, rfl⟩
  split
  · rename_i hc
    obtain ⟨hunit, htrail, hlead⟩ := hexUnit?_control c.toNat hc
    refine ⟨o + 6, ?_⟩
    simp only [List.cons_append, List.nil_append, readChars, hunit, htrail, hlead,
      Bool.false_eq_true, if_false, Char.ofNat_toNat]
  · rename_i hquote hslash _ _ _ _ _ hc
    refine ⟨o + c.utf8Size, ?_⟩
    rw [List.cons_append, List.nil_append, readChars.eq_def]
    split <;> simp_all

theorem readChars_quoted (cs rest : List Char) (o : Nat) :
    ∃ o', readChars (cs.flatMap escape ++ '"' :: rest) o = .ok (cs, ⟨rest, o'⟩) := by
  induction cs generalizing o with
  | nil => exact ⟨_, rfl⟩
  | cons c cs ih =>
    obtain ⟨k, hk⟩ := readChars_escape c (cs.flatMap escape ++ '"' :: rest) o
    obtain ⟨o', ho⟩ := ih k
    refine ⟨o', ?_⟩
    rw [List.flatMap_cons, List.append_assoc, hk, ho]
    rfl

/-- A string is read from its quoted form. -/
theorem readString_quoted (s : String) (rest : List Char) (o : Nat) :
    ∃ o', readString ⟨s.toList.flatMap escape ++ '"' :: rest, o⟩ = .ok (s, ⟨rest, o'⟩) := by
  obtain ⟨o', ho⟩ := readChars_quoted s.toList rest o
  refine ⟨o', ?_⟩
  simp only [readString, ho, Except.map, String.ofList_toList]

/-! ## Tokens -/

open Cursor

/-- The reader gets `a` from the characters, with blanks before them perhaps and with any text after
them that does not go on with a number. -/
def Reads {α : Type} (r : Cursor → Step α) (cs : List Char) (a : α) : Prop :=
  ∀ blanks rest o, (∀ c ∈ blanks, isSpace c = true) → EndsNumber rest →
    ∃ o', r ⟨blanks ++ cs ++ rest, o⟩ = .ok (a, ⟨rest, o'⟩)

theorem skipSpace_append {blanks cs : List Char} {c : Char} (hb : ∀ c ∈ blanks, isSpace c = true)
    (hc : isSpace c = false) (o : Nat) :
    skipSpace ⟨blanks ++ c :: cs, o⟩ = ⟨c :: cs, o + blanks.length⟩ := by
  have hneg : ¬ isSpace c = true := by simp [hc]
  simp only [skipSpace, List.dropWhile_append_of_pos hb, List.takeWhile_append_of_pos hb,
    List.dropWhile_cons_of_neg hneg, List.takeWhile_cons_of_neg hneg, List.append_nil]

theorem skipSpace_cons {cs : List Char} {c : Char} (hc : isSpace c = false) (o : Nat) :
    skipSpace ⟨c :: cs, o⟩ = ⟨c :: cs, o⟩ :=
  skipSpace_append (fun c (h : c ∈ []) => nomatch h) hc o

theorem isSpace_newLine {k : Nat} {c : Char} (h : c ∈ newLine k) : isSpace c = true := by
  simp only [newLine, List.mem_cons, List.mem_replicate] at h
  rcases h with rfl | ⟨-, rfl⟩ <;> rfl

theorem skipSpace_newLine (k : Nat) (cs : List Char) {c : Char} (hc : isSpace c = false) (o : Nat) :
    ∃ o', skipSpace ⟨newLine k ++ c :: cs, o⟩ = ⟨c :: cs, o'⟩ :=
  ⟨_, skipSpace_append (fun _ => isSpace_newLine) hc o⟩

theorem endsNumber_newLine (k : Nat) (cs : List Char) : EndsNumber (newLine k ++ cs) := by
  rintro c ⟨⟩
  decide

theorem endsNumber_comma (cs : List Char) : EndsNumber (',' :: cs) := by
  rintro c ⟨⟩
  decide

theorem readWord_append (ws rest : List Char) (o : Nat) :
    readWord ws ⟨ws ++ rest, o⟩ = .ok ((), ⟨rest, o + ws.length⟩) := by
  induction ws generalizing o with
  | nil => rfl
  | cons w ws ih =>
    simp only [List.cons_append, readWord, if_true]
    rw [Cursor.past, List.drop_succ_cons, List.drop_zero, ih, List.length_cons, Nat.add_assoc,
      Nat.add_comm 1]

/-! ## The first character of a value -/

/-- A value starts with a character that is no blank and closes no array, and with an `n` only if it
is null. -/
theorem exists_lead (k : Nat) (v : Value) : ∃ c cs, prettyChars k v = c :: cs ∧
    isSpace c = false ∧ c ≠ ']' ∧ (c = 'n' → v = .null) := by
  cases v with
  | null => exact ⟨_, _, rfl, rfl, by decide, fun _ => rfl⟩
  | bool b => cases b <;> exact ⟨_, _, rfl, rfl, by decide, fun h => absurd h (by decide)⟩
  | number n =>
    obtain ⟨c, cs, hcs, hc⟩ := head_numberText n
    refine ⟨c, cs, by rw [prettyChars, scalarText, hcs] <;> nofun, ?_⟩
    rcases hc with rfl | hc
    · exact ⟨rfl, by decide, fun h => absurd h (by decide)⟩
    · refine ⟨?_, digit_ne hc rfl, fun h => absurd h (digit_ne hc rfl)⟩
      simp [isSpace, digit_ne hc (d := ' ') rfl, digit_ne hc (d := '\n') rfl,
        digit_ne hc (d := '\t') rfl, digit_ne hc (d := '\r') rfl]
  | string s => exact ⟨_, _, rfl, rfl, by decide, fun h => absurd h (by decide)⟩
  | array xs => cases xs <;> exact ⟨_, _, rfl, rfl, by decide, fun h => absurd h (by decide)⟩
  | object ms => cases ms <;> exact ⟨_, _, rfl, rfl, by decide, fun h => absurd h (by decide)⟩

/-! ## Arrays -/

theorem length_prettyItems (k : Nat) (vs : List Value) : vs.length < (prettyItems k vs).length := by
  induction vs with
  | nil => simp [prettyItems]
  | cons v vs ih =>
    simp only [prettyItems, List.length_append, List.length_cons]
    omega

theorem nextItem_first (k : Nat) (cs : List Char) {c : Char} (hc : isSpace c = false)
    (hclose : c ≠ ']') (o : Nat) :
    ∃ o', nextItem true ⟨newLine k ++ c :: cs, o⟩ = .ok (true, ⟨c :: cs, o'⟩) := by
  obtain ⟨o', ho⟩ := skipSpace_newLine k cs hc o
  exact ⟨o', by simp only [nextItem, ho, if_true]⟩

theorem nextItem_comma (k : Nat) (cs : List Char) {c : Char} (hc : isSpace c = false)
    (hclose : c ≠ ']') (o : Nat) :
    ∃ o', nextItem false ⟨',' :: newLine k ++ c :: cs, o⟩ = .ok (true, ⟨c :: cs, o'⟩) := by
  obtain ⟨o', ho⟩ := skipSpace_newLine k cs hc (o + 1)
  refine ⟨o', ?_⟩
  simp [nextItem, skipSpace_cons (c := ',') rfl, Cursor.past, ho, hclose]

section Items

variable {α β : Type} {item : Cursor → Step α} {write : β → Value} {read : β → α} {k : Nat}

/-- The text after an item does not go on with a number. -/
theorem endsNumber_items (k : Nat) (vs : List Value) (rest : List Char) :
    EndsNumber (prettyItems k vs ++ rest) := by
  cases vs with
  | nil =>
    rw [prettyItems, List.append_assoc]
    exact endsNumber_newLine k _
  | cons v vs =>
    rw [prettyItems]
    exact endsNumber_comma _

/-- Items after a first one are read up to the closing bracket. -/
theorem readItems_more {bs : List β}
    (h : ∀ b ∈ bs, Reads item (prettyChars (k + 1) (write b)) (read b)) {n : Nat}
    (hn : bs.length < n) (rest : List Char) (o : Nat) :
    ∃ o', readItems item n false ⟨prettyItems k (bs.map write) ++ rest, o⟩ =
      .ok (bs.map read, ⟨rest, o'⟩) := by
  induction bs generalizing n o with
  | nil =>
    obtain ⟨n, rfl⟩ := Nat.exists_eq_succ_of_ne_zero (Nat.ne_zero_of_lt hn)
    obtain ⟨o', ho⟩ := skipSpace_newLine k rest (c := ']') rfl o
    refine ⟨o' + 1, ?_⟩
    simp only [List.map_nil, prettyItems, List.append_assoc, List.cons_append, List.nil_append,
      readItems, nextItem, ho]
    rfl
  | cons b bs ih =>
    obtain ⟨n, rfl⟩ := Nat.exists_eq_succ_of_ne_zero (Nat.ne_zero_of_lt hn)
    obtain ⟨c, cs, hcs, hc, hclose, -⟩ := exists_lead (k + 1) (write b)
    obtain ⟨o₁, h₁⟩ := nextItem_comma (k + 1)
      (cs ++ (prettyItems k (bs.map write) ++ rest)) hc hclose o
    obtain ⟨o₂, h₂⟩ := h b List.mem_cons_self [] _ o₁ nofun
      (endsNumber_items k (bs.map write) rest)
    obtain ⟨o', h'⟩ := ih (fun b hb => h b (List.mem_cons_of_mem _ hb))
      (Nat.lt_of_succ_lt_succ hn) o₂
    refine ⟨o', ?_⟩
    rw [List.nil_append, hcs, List.cons_append] at h₂
    simp only [List.map_cons, prettyItems, hcs, List.append_assoc, List.cons_append, readItems] at *
    simp only [h₁, h₂, h']
    rfl

/-- The items of an array are read after the opening bracket. -/
theorem readItems_array {bs : List β}
    (h : ∀ b ∈ bs, Reads item (prettyChars (k + 1) (write b)) (read b)) :
    ∃ body, prettyChars k (.array (bs.map write)) = '[' :: body ∧ bs.length < body.length ∧
      ∀ n rest o, bs.length < n →
        ∃ o', readItems item n true ⟨body ++ rest, o⟩ = .ok (bs.map read, ⟨rest, o'⟩) := by
  cases bs with
  | nil =>
    refine ⟨[']'], rfl, Nat.zero_lt_one, fun n rest o hn => ⟨o + 1, ?_⟩⟩
    obtain ⟨n, rfl⟩ := Nat.exists_eq_succ_of_ne_zero (Nat.ne_zero_of_lt hn)
    simp only [readItems, nextItem, List.cons_append, List.nil_append,
      skipSpace_cons (c := ']') rfl]
    rfl
  | cons b bs =>
    have hlen := length_prettyItems k (bs.map write)
    rw [List.length_map] at hlen
    refine ⟨newLine (k + 1) ++ prettyChars (k + 1) (write b) ++ prettyItems k (bs.map write), by
      rw [List.map_cons, prettyChars]; rfl, by simp [newLine]; omega, fun n rest o hn => ?_⟩
    obtain ⟨n, rfl⟩ := Nat.exists_eq_succ_of_ne_zero (Nat.ne_zero_of_lt hn)
    obtain ⟨c, cs, hcs, hc, hclose, -⟩ := exists_lead (k + 1) (write b)
    obtain ⟨o₁, h₁⟩ := nextItem_first (k + 1)
      (cs ++ (prettyItems k (bs.map write) ++ rest)) hc hclose o
    obtain ⟨o₂, h₂⟩ := h b List.mem_cons_self [] _ o₁ nofun
      (endsNumber_items k (bs.map write) rest)
    obtain ⟨o', h'⟩ := readItems_more (fun b hb => h b (List.mem_cons_of_mem _ hb))
      (Nat.lt_of_succ_lt_succ hn) rest o₂
    refine ⟨o', ?_⟩
    rw [List.nil_append, hcs, List.cons_append] at h₂
    simp only [hcs, List.append_assoc, List.cons_append, readItems, h₁, h₂, h']
    rfl

end Items

/-! ## Objects -/

section Members

variable {β : Type} {member : β → String → Cursor → Step β} {k : Nat}

/-- Reading a member takes the state from `b` to `b'`. -/
def Takes (member : β → String → Cursor → Step β) (k : Nat) (b : β) (e : String × Value)
    (b' : β) : Prop :=
  ∀ rest o, EndsNumber rest →
    ∃ o', member b e.1 ⟨':' :: ' ' :: prettyChars (k + 1) e.2 ++ rest, o⟩ = .ok (b', ⟨rest, o'⟩)

/-- Reading some members takes the state from one to another. -/
inductive TakesAll (member : β → String → Cursor → Step β) (k : Nat) :
    β → List (String × Value) → β → Prop
  | nil (b : β) : TakesAll member k b [] b
  | cons {b b' b'' : β} {e : String × Value} {ms : List (String × Value)}
    (h : Takes member k b e b') (hs : TakesAll member k b' ms b'') :
    TakesAll member k b (e :: ms) b''

theorem length_prettyMembers (k : Nat) (ms : List (String × Value)) :
    ms.length < (prettyMembers k ms).length := by
  induction ms with
  | nil => simp [prettyMembers]
  | cons e ms ih =>
    simp only [prettyMembers, List.length_append, List.length_cons]
    omega

theorem endsNumber_members (k : Nat) (ms : List (String × Value)) (rest : List Char) :
    EndsNumber (prettyMembers k ms ++ rest) := by
  cases ms with
  | nil =>
    rw [prettyMembers, List.append_assoc]
    exact endsNumber_newLine k _
  | cons e ms =>
    rw [prettyMembers]
    exact endsNumber_comma _

theorem nextKey_first (k : Nat) (key : String) (cs : List Char) (o : Nat) :
    ∃ o', nextKey true ⟨newLine k ++ quoted key ++ cs, o⟩ = .ok (true, ⟨quoted key ++ cs, o'⟩) := by
  obtain ⟨o', ho⟩ := skipSpace_newLine k (key.toList.flatMap escape ++ ['"'] ++ cs) (c := '"') rfl o
  exact ⟨o', by simp_all [nextKey, quoted]⟩

theorem nextKey_comma (k : Nat) (key : String) (cs : List Char) (o : Nat) :
    ∃ o', nextKey false ⟨',' :: newLine k ++ quoted key ++ cs, o⟩ =
      .ok (true, ⟨quoted key ++ cs, o'⟩) := by
  obtain ⟨o', ho⟩ := skipSpace_newLine k (key.toList.flatMap escape ++ ['"'] ++ cs) (c := '"') rfl
    (o + 1)
  exact ⟨o', by simp_all [nextKey, quoted, skipSpace_cons (c := ',') rfl, Cursor.past]⟩

/-- Once the key is reached, a member is read and then the ones after it. -/
theorem readMembers_step {n : Nat} {first : Bool} {b b' : β} {e : String × Value}
    {start rest : List Char} {o₀ o₁ : Nat}
    (hkey : nextKey first
      ⟨start ++ quoted e.1 ++ (':' :: ' ' :: prettyChars (k + 1) e.2 ++ rest), o₀⟩ =
        .ok (true, ⟨quoted e.1 ++ (':' :: ' ' :: prettyChars (k + 1) e.2 ++ rest), o₁⟩))
    (h : Takes member k b e b') (hr : EndsNumber rest) :
    ∃ o', readMembers member (n + 1) first b
      ⟨start ++ quoted e.1 ++ (':' :: ' ' :: prettyChars (k + 1) e.2 ++ rest), o₀⟩ =
        readMembers member n false b' ⟨rest, o'⟩ := by
  obtain ⟨o₂, h₂⟩ := readString_quoted e.1 (':' :: ' ' :: prettyChars (k + 1) e.2 ++ rest) (o₁ + 1)
  obtain ⟨o₃, h₃⟩ := h rest o₂ hr
  refine ⟨o₃, ?_⟩
  rw [readMembers, hkey]
  simp only [quoted, List.append_assoc, List.cons_append, List.nil_append, Cursor.past,
    List.drop_succ_cons, List.drop_zero] at *
  simp only [h₂, h₃]

/-- Members after a first one are read up to the closing brace. -/
theorem readMembers_more {b b' : β} {ms : List (String × Value)} (h : TakesAll member k b ms b')
    {n : Nat} (hn : ms.length < n) (rest : List Char) (o : Nat) :
    ∃ o', readMembers member n false b ⟨prettyMembers k ms ++ rest, o⟩ = .ok (b', ⟨rest, o'⟩) := by
  induction h generalizing n o with
  | nil b =>
    obtain ⟨n, rfl⟩ := Nat.exists_eq_succ_of_ne_zero (Nat.ne_zero_of_lt hn)
    obtain ⟨o', ho⟩ := skipSpace_newLine k rest (c := '\x7d') rfl o
    refine ⟨o' + 1, ?_⟩
    simp only [prettyMembers, List.append_assoc, List.cons_append, List.nil_append, readMembers,
      nextKey, ho]
    rfl
  | @cons b b₁ b' e ms ht hs ih =>
    obtain ⟨n, rfl⟩ := Nat.exists_eq_succ_of_ne_zero (Nat.ne_zero_of_lt hn)
    obtain ⟨o₁, h₁⟩ := nextKey_comma (k + 1) e.1
      (':' :: ' ' :: prettyChars (k + 1) e.2 ++ (prettyMembers k ms ++ rest)) o
    obtain ⟨o₂, h₂⟩ := readMembers_step (n := n) h₁ ht (endsNumber_members k ms rest)
    obtain ⟨o', h'⟩ := ih (Nat.lt_of_succ_lt_succ hn) o₂
    refine ⟨o', ?_⟩
    rw [← h', ← h₂]
    obtain ⟨key, v⟩ := e
    simp only [prettyMembers, List.append_assoc, List.cons_append]

/-- The members of an object are read after the opening brace. -/
theorem readMembers_object {b b' : β} {ms : List (String × Value)}
    (h : TakesAll member k b ms b') :
    ∃ body, prettyChars k (.object ms) = '\x7b' :: body ∧ ms.length < body.length ∧
      ∀ n rest o, ms.length < n →
        ∃ o', readMembers member n true b ⟨body ++ rest, o⟩ = .ok (b', ⟨rest, o'⟩) := by
  cases h with
  | nil =>
    refine ⟨['\x7d'], rfl, Nat.zero_lt_one, fun n rest o hn => ⟨o + 1, ?_⟩⟩
    obtain ⟨n, rfl⟩ := Nat.exists_eq_succ_of_ne_zero (Nat.ne_zero_of_lt hn)
    simp only [readMembers, nextKey, List.cons_append, List.nil_append,
      skipSpace_cons (c := '\x7d') rfl]
    rfl
  | @cons _ b₁ _ e ms ht hs =>
    have hlen := length_prettyMembers k ms
    refine ⟨newLine (k + 1) ++ quoted e.1 ++ ':' :: ' ' :: prettyChars (k + 1) e.2 ++
      prettyMembers k ms, ?_, by simp; omega, fun n rest o hn => ?_⟩
    · obtain ⟨key, v⟩ := e
      simp only [prettyChars, List.cons_append]
    obtain ⟨n, rfl⟩ := Nat.exists_eq_succ_of_ne_zero (Nat.ne_zero_of_lt hn)
    obtain ⟨o₁, h₁⟩ := nextKey_first (k + 1) e.1
      (':' :: ' ' :: prettyChars (k + 1) e.2 ++ (prettyMembers k ms ++ rest)) o
    obtain ⟨o₂, h₂⟩ := readMembers_step (n := n) h₁ ht (endsNumber_members k ms rest)
    obtain ⟨o', h'⟩ := readMembers_more hs (Nat.lt_of_succ_lt_succ hn) rest o₂
    refine ⟨o', ?_⟩
    rw [← h', ← h₂]
    simp only [List.append_assoc, List.cons_append]

/-- The value of a member is read after its colon. -/
theorem readMember_reads {α : Type} {item : Cursor → Step α} {cs rest : List Char} {a : α}
    (h : Reads item cs a) (hr : EndsNumber rest) (o : Nat) :
    ∃ o', readMember item ⟨':' :: ' ' :: cs ++ rest, o⟩ = .ok (a, ⟨rest, o'⟩) := by
  obtain ⟨o', ho⟩ := h [' '] rest (o + 1) (by simp [isSpace]) hr
  refine ⟨o', ?_⟩
  simp only [readMember, readColon, List.cons_append, List.nil_append,
    skipSpace_cons (c := ':') rfl, Cursor.past, List.drop_succ_cons, List.drop_zero] at *
  exact ho

end Members

/-! ## Values -/

theorem skipSpace_skipSpace (c : Cursor) : c.skipSpace.skipSpace = c.skipSpace := by
  cases h : c.rest.dropWhile isSpace with
  | nil => simp [skipSpace, h]
  | cons d ds =>
    have hd := List.head_dropWhile_not isSpace (l := c.rest) (by simp [h])
    simp only [h, List.head_cons] at hd
    have hs : c.skipSpace = ⟨d :: ds, c.offset + (c.rest.takeWhile isSpace).length⟩ := by
      rw [skipSpace, h]
    rw [hs, skipSpace_cons hd]

/-- The reader skips blanks first. -/
def Skips {α : Type} (r : Cursor → Step α) : Prop := ∀ c : Cursor, r c.skipSpace = r c

/-- A reader that skips blanks first is judged from the first character of a value on. -/
theorem reads_of_lead {α : Type} {r : Cursor → Step α} {l : List Char} {a : α} {c : Char}
    (hskip : Skips r) (hc : isSpace c = false)
    (h : ∀ rest o, EndsNumber rest → ∃ o', r ⟨c :: l ++ rest, o⟩ = .ok (a, ⟨rest, o'⟩)) :
    Reads r (c :: l) a := by
  intro blanks rest o hb hr
  obtain ⟨o', ho⟩ := h rest (o + blanks.length) hr
  refine ⟨o', ?_⟩
  rw [← hskip, List.append_assoc, List.cons_append, skipSpace_append hb hc]
  exact ho

/-- A fixed word is read after its first letter. -/
theorem reads_word {α : Type} {r : Cursor → Step α} {c : Char} {w : List Char} {a : α}
    (hskip : Skips r) (hc : isSpace c = false)
    (h : ∀ cs o, r ⟨c :: cs, o⟩ = (readWord w ⟨cs, o + 1⟩).map fun x => (a, x.2)) :
    Reads r (c :: w) a := by
  refine reads_of_lead hskip hc fun rest o _ => ⟨o + 1 + w.length, ?_⟩
  rw [List.cons_append, h, readWord_append]
  rfl

theorem skips_readValue (d : Nat) : Skips (readValue d) := by
  intro c
  unfold readValue
  rw [skipSpace_skipSpace]

theorem reads_null (d k : Nat) : Reads (readValue d) (prettyChars k .null) .null := by
  refine reads_word (w := ['u', 'l', 'l']) (skips_readValue d) rfl fun cs o => ?_
  unfold readValue
  simp only [skipSpace_cons (c := 'n') rfl]
  rfl

theorem reads_bool (d k : Nat) (b : Bool) :
    Reads (readValue d) (prettyChars k (.bool b)) (.bool b) := by
  cases b with
  | true =>
    refine reads_word (w := ['r', 'u', 'e']) (skips_readValue d) rfl fun cs o => ?_
    unfold readValue
    simp only [skipSpace_cons (c := 't') rfl]
    rfl
  | false =>
    refine reads_word (w := ['a', 'l', 's', 'e']) (skips_readValue d) rfl fun cs o => ?_
    unfold readValue
    simp only [skipSpace_cons (c := 'f') rfl]
    rfl

theorem reads_string (d k : Nat) (s : String) :
    Reads (readValue d) (prettyChars k (.string s)) (.string s) := by
  refine reads_of_lead (c := '"') (l := s.toList.flatMap escape ++ ['"']) (skips_readValue d) rfl
    fun rest o _ => ?_
  obtain ⟨o', ho⟩ := readString_quoted s rest (o + 1)
  refine ⟨o', ?_⟩
  unfold readValue
  simp only [List.cons_append, List.append_assoc, List.nil_append, skipSpace_cons (c := '"') rfl,
    Cursor.past, List.drop_succ_cons, List.drop_zero] at *
  rw [ho]
  rfl

theorem reads_number (d k : Nat) (n : Number) :
    Reads (readValue d) (prettyChars k (.number n)) (.number n) := by
  obtain ⟨c, cs, hcs, hc⟩ := head_numberText n
  have hchars : prettyChars k (.number n) = c :: cs := by
    rw [prettyChars, scalarText, hcs] <;> nofun
  obtain ⟨c', cs', h', hspace, -⟩ := exists_lead k (.number n)
  obtain ⟨rfl, rfl⟩ := List.cons.inj (hchars.symm.trans h')
  rw [hchars]
  refine reads_of_lead (skips_readValue d) hspace fun rest o hr => ?_
  obtain ⟨o', ho⟩ := readNumber_text n hr o
  rw [hcs] at ho
  refine ⟨o', ?_⟩
  unfold readValue
  simp only [List.cons_append, skipSpace_cons hspace] at *
  have hdigit {e : Char} (he : e.isDigit = false) (hm : e ≠ '-') : c ≠ e :=
    hc.elim (fun h => h ▸ hm.symm) fun h => digit_ne h he
  split
  · rename_i h
    cases h
  -- it is none of the characters that start another value
  iterate 6
    · rename_i h
      exact absurd (List.cons.inj h).1 (hdigit rfl (by decide))
  · rename_i h
    obtain ⟨rfl, -⟩ := List.cons.inj h
    rw [if_pos hc, ho]
    rfl

/-- A list of values is written as an array and read item by item. -/
theorem reads_array {xs : List Value} {k d : Nat}
    (h : ∀ x ∈ xs, Reads (readValue (d + 1)) (prettyChars (k + 1) x) x) :
    Reads (readValue (d + 2)) (prettyChars k (.array xs)) (.array xs) := by
  obtain ⟨body, hbody, hlen, hread⟩ := readItems_array h
  rw [List.map_id'] at hbody hread
  rw [hbody]
  refine reads_of_lead (skips_readValue _) rfl fun rest o _ => ?_
  obtain ⟨o', ho⟩ := hread (('[' :: body ++ rest).length) rest (o + 1) (by simp; omega)
  refine ⟨o', ?_⟩
  unfold readValue
  simp only [List.cons_append, skipSpace_cons (c := '[') rfl, Cursor.past, List.drop_succ_cons,
    List.drop_zero] at *
  rw [ho]
  rfl

/-- Members of any values are collected as they are read, the last one first. -/
theorem takesAll_values {ms : List (String × Value)} {k d : Nat}
    (h : ∀ e ∈ ms, Reads (readValue d) (prettyChars (k + 1) e.2) e.2)
    (before : List (String × Value)) :
    TakesAll (fun members key c =>
      (readMember (readValue d) c).map fun (x, c) => ((key, x) :: members, c)) k before ms
      (ms.reverse ++ before) := by
  induction ms generalizing before with
  | nil => exact .nil before
  | cons e ms ih =>
    rw [List.reverse_cons, List.append_assoc]
    refine .cons (fun rest o hr => ?_) (ih (fun e he => h e (List.mem_cons_of_mem _ he)) _)
    obtain ⟨o', ho⟩ := readMember_reads (h e List.mem_cons_self) hr o
    exact ⟨o', by rw [ho]; rfl⟩

theorem reads_object {ms : List (String × Value)} {k d : Nat}
    (hs : ms.Pairwise fun a b => a.1 < b.1)
    (h : ∀ e ∈ ms, Reads (readValue (d + 1)) (prettyChars (k + 1) e.2) e.2) :
    Reads (readValue (d + 2)) (prettyChars k (.object ms)) (.object ms) := by
  obtain ⟨body, hbody, hlen, hread⟩ := readMembers_object (takesAll_values h [])
  rw [hbody]
  refine reads_of_lead (skips_readValue _) rfl fun rest o _ => ?_
  obtain ⟨o', ho⟩ := hread (('\x7b' :: body ++ rest).length) rest (o + 1) (by simp; omega)
  refine ⟨o', ?_⟩
  unfold readValue
  simp only [List.cons_append, skipSpace_cons (c := '\x7b') rfl, Cursor.past, List.drop_succ_cons,
    List.drop_zero] at *
  rw [ho]
  simp only [Except.map, List.append_nil, List.reverse_reverse, Value.ofMembers_of_sorted hs]

mutual

/-- An ordered value is read back, where it is not nested too deeply. -/
theorem reads_value : ∀ (v : Value) (k d : Nat), v.Ordered → v.depth < d →
    Reads (readValue d) (prettyChars k v) v
  | .null, k, d, _, _ => reads_null d k
  | .bool b, k, d, _, _ => reads_bool d k b
  | .number n, k, d, _, _ => reads_number d k n
  | .string s, k, d, _, _ => reads_string d k s
  | .array xs, k, d, ho, hd => by
    obtain ⟨d, rfl⟩ : ∃ e, d = e + 2 := ⟨d - 2, by rw [Value.depth] at hd; omega⟩
    rw [Value.depth] at hd
    exact reads_array (reads_items xs (k + 1) (d + 1) ho (by omega))
  | .object ms, k, d, ho, hd => by
    obtain ⟨d, rfl⟩ : ∃ e, d = e + 2 := ⟨d - 2, by rw [Value.depth] at hd; omega⟩
    rw [Value.depth] at hd
    exact reads_object ho.1 (reads_members ms (k + 1) (d + 1) ho.2 (by omega))

theorem reads_items : ∀ (xs : List Value) (k d : Nat), Value.OrderedItems xs →
    Value.depthItems xs < d → ∀ x ∈ xs, Reads (readValue d) (prettyChars k x) x
  | x :: xs, k, d, ho, hd, y, hy => by
    rw [Value.depthItems] at hd
    rcases List.mem_cons.1 hy with h | hy
    · rw [h]
      exact reads_value x k d ho.1 (by omega)
    · exact reads_items xs k d ho.2 (by omega) y hy

theorem reads_members : ∀ (ms : List (String × Value)) (k d : Nat), Value.OrderedMembers ms →
    Value.depthMembers ms < d → ∀ e ∈ ms, Reads (readValue d) (prettyChars k e.2) e.2
  | (key, x) :: ms, k, d, ho, hd, e, he => by
    rw [Value.depthMembers] at hd
    rcases List.mem_cons.1 he with h | he
    · rw [h]
      exact reads_value x k d ho.1 (by omega)
    · exact reads_members ms k d ho.2 (by omega) e he

end

/-! ## Documents -/

theorem endsNumber_of_isSpace {blanks : List Char} (hb : ∀ c ∈ blanks, isSpace c = true) :
    EndsNumber blanks := by
  intro c hc
  have hspace := hb c (List.mem_of_mem_head? hc)
  simp only [isSpace, Bool.or_eq_true, beq_iff_eq] at hspace
  rcases hspace with ((rfl | rfl) | rfl) | rfl <;> decide

/-- A document is read as the value that its text is read as, with blanks after it perhaps. -/
theorem read_append {α : Type} {r : Reader α} {cs blanks : List Char} {a : α}
    (h : Reads (r depthLimit) cs a) (hb : ∀ c ∈ blanks, isSpace c = true) :
    read r (String.ofList (cs ++ blanks)) = .ok a := by
  obtain ⟨o, ho⟩ := h [] blanks 0 nofun (endsNumber_of_isSpace hb)
  have hdrop : blanks.dropWhile isSpace = [] := List.dropWhile_eq_nil_iff.2 hb
  rw [List.nil_append] at ho
  simp only [read, Cursor.start, String.toList_ofList, ho, skipSpace, hdrop]
  rfl

theorem read_eq_ok {α : Type} {r : Reader α} {cs : List Char} {a : α}
    (h : Reads (r depthLimit) cs a) : read r (String.ofList cs) = .ok a := by
  have hread := read_append h (List.forall_mem_nil _)
  rwa [List.append_nil] at hread

end Registrar.Json
