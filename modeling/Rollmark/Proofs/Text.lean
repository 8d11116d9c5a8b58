/-
Taking texts apart: a run of characters of one class ends where the class ends, a text without
blanks at its ends is not trimmed, a search passes over places where there is nothing, and the
bytes of a text are read as that text.
-/
import Rollmark.Text.Blank
import Rollmark.Text.Encoding
import Rollmark.Text.Scan
import Mathlib.Data.List.TakeWhile

namespace Rollmark.Text

/-! ## Runs -/

section Runs

variable {p : Char → Bool} {run rest : List Char}

theorem takeWhile_run (hrun : ∀ c ∈ run, p c = true) (hrest : ∀ c ∈ rest.head?, p c = false) :
    (run ++ rest).takeWhile p = run := by
  rw [List.takeWhile_append_of_pos hrun]
  cases rest with
  | nil => rw [List.takeWhile_nil, List.append_nil]
  | cons c cs =>
    have hc : p c = false := hrest c rfl
    rw [List.takeWhile_cons_of_neg (by rw [hc]; exact Bool.false_ne_true), List.append_nil]

theorem dropWhile_run (hrun : ∀ c ∈ run, p c = true) (hrest : ∀ c ∈ rest.head?, p c = false) :
    (run ++ rest).dropWhile p = rest := by
  rw [List.dropWhile_append_of_pos hrun]
  cases rest with
  | nil => rfl
  | cons c cs =>
    have hc : p c = false := hrest c rfl
    rw [List.dropWhile_cons_of_neg (by rw [hc]; exact Bool.false_ne_true)]

/-- A search for a character stops at its first place. -/
theorem takeWhile_until {c : Char} (h : c ∉ run) (rest : List Char) :
    (run ++ c :: rest).takeWhile (· != c) = run :=
  takeWhile_run (fun d hd => bne_iff_ne.2 fun hdc => h (hdc ▸ hd)) (by rintro d ⟨⟩; exact bne_self_eq_false c)

theorem dropWhile_until {c : Char} (h : c ∉ run) (rest : List Char) :
    (run ++ c :: rest).dropWhile (· != c) = c :: rest :=
  dropWhile_run (fun d hd => bne_iff_ne.2 fun hdc => h (hdc ▸ hd)) (by rintro d ⟨⟩; exact bne_self_eq_false c)

end Runs

/-! ## Searching -/

/-- Whether a text differs from a lead before either of them ends. -/
def differs : List Char → List Char → Bool
  | l :: lead, c :: cs => l != c || differs lead cs
  | _, _ => false

/-- A text that differs from a lead does not begin with it, whatever follows. -/
theorem dropLead?_of_differs {lead cs : List Char} (h : differs lead cs = true) (rest : List Char) :
    dropLead? lead (cs ++ rest) = none := by
  induction lead generalizing cs with
  | nil => cases cs <;> cases h
  | cons l lead ih =>
    cases cs with
    | nil => cases h
    | cons c cs =>
      rw [differs, Bool.or_eq_true] at h
      rw [List.cons_append, dropLead?]
      by_cases hlc : l = c
      · rw [if_pos hlc]
        exact ih (h.resolve_left (by rw [hlc, bne_self_eq_false]; exact Bool.false_ne_true))
      · rw [if_neg hlc]

theorem dropLead?_append (lead rest : List Char) : dropLead? lead (lead ++ rest) = some rest := by
  induction lead with
  | nil => rfl
  | cons l lead ih => rw [List.cons_append, dropLead?, if_pos rfl, ih]

section Search

variable {α : Type} {rule : List Char → Option α}

theorem firstFound_of_some {cs : List Char} {a : α} (h : rule cs = some a) :
    firstFound rule cs = some a := by
  cases cs with
  | nil => exact h
  | cons c cs => rw [firstFound, h]

/-- A search passes over places where there is nothing. -/
theorem firstFound_append {before rest : List Char}
    (h : ∀ n < before.length, rule ((before ++ rest).drop n) = none) :
    firstFound rule (before ++ rest) = firstFound rule rest := by
  induction before with
  | nil => rfl
  | cons c before ih =>
    have hfirst : rule (c :: (before ++ rest)) = none := h 0 (Nat.zero_lt_succ _)
    rw [List.cons_append, firstFound, hfirst]
    exact ih fun n hn => h (n + 1) (Nat.succ_lt_succ hn)

/-- A search finds what the rule finds at the first place where it finds anything. -/
theorem firstFound_eq_some {cs : List Char} {a : α} : firstFound rule cs = some a ↔
    ∃ before place, cs = before ++ place ∧ rule place = some a ∧
      ∀ n < before.length, rule (cs.drop n) = none := by
  constructor
  · intro h
    induction cs with
    | nil => exact ⟨[], [], rfl, h, nofun⟩
    | cons c cs ih =>
      rw [firstFound] at h
      split at h
      · rename_i found hfound
        exact ⟨[], c :: cs, rfl, hfound.trans h, nofun⟩
      · rename_i hnone
        obtain ⟨before, place, rfl, hplace, hbefore⟩ := ih h
        refine ⟨c :: before, place, rfl, hplace, fun n hn => ?_⟩
        cases n with
        | zero => exact hnone
        | succ n => exact hbefore n (Nat.lt_of_succ_lt_succ hn)
  · rintro ⟨before, place, rfl, hplace, hbefore⟩
    rw [firstFound_append hbefore]
    exact firstFound_of_some hplace

/-- A search finds nothing where there is nothing at any place. -/
theorem firstFound_eq_none {cs : List Char} (h : ∀ rest, rest <:+ cs → rule rest = none) :
    firstFound rule cs = none := by
  induction cs with
  | nil => exact h [] (List.suffix_refl [])
  | cons c cs ih =>
    have hfirst : rule (c :: cs) = none := h (c :: cs) (List.suffix_refl _)
    rw [firstFound, hfirst]
    exact ih fun rest hrest => h rest (hrest.trans (List.suffix_cons c cs))

end Search

/-! ## Blanks -/

theorem trimStart_eq_self {cs : List Char} (h : ∀ c ∈ cs.head?, isBlank c = false) :
    trimStart cs = cs :=
  @dropWhile_run isBlank [] cs nofun h

theorem trimEnd_eq_self {cs : List Char} (h : ∀ c ∈ cs.getLast?, isBlank c = false) :
    trimEnd cs = cs := by
  unfold trimEnd
  rw [← trimStart, trimStart_eq_self (by rwa [List.head?_reverse]), List.reverse_reverse]

theorem trim_eq_self {cs : List Char} (h : ∀ c ∈ cs, isBlank c = false) : trim cs = cs := by
  unfold trim
  rw [trimStart_eq_self fun c hc => h c (List.mem_of_mem_head? hc),
    trimEnd_eq_self fun c hc => h c (List.mem_of_mem_getLast? hc)]

/-- Blanks in front do not count. -/
theorem trim_blanks_append {blanks : List Char} (h : ∀ c ∈ blanks, isBlank c = true)
    (cs : List Char) : trim (blanks ++ cs) = trim cs := by
  unfold trim trimStart
  rw [List.dropWhile_append_of_pos h]

/-- Blanks at the end do not count. -/
theorem trim_append_blanks {blanks : List Char} (h : ∀ c ∈ blanks, isBlank c = true)
    (cs : List Char) : trim (cs ++ blanks) = trim cs := by
  unfold trim trimStart
  rw [List.dropWhile_append]
  split
  · rename_i hempty
    rw [List.isEmpty_iff.1 hempty, List.dropWhile_eq_nil_iff.2 h]
  · unfold trimEnd
    rw [List.reverse_append, List.dropWhile_append_of_pos fun c hc => h c (List.mem_reverse.1 hc)]

/-- A text does not end with a blank once it is trimmed. -/
theorem getLast?_trim (cs : List Char) : ∀ c ∈ (trim cs).getLast?, isBlank c = false := by
  intro c hc
  unfold trim trimEnd at hc
  rw [List.getLast?_reverse] at hc
  have hnot := List.head?_dropWhile_not isBlank (trimStart cs).reverse
  rw [hc] at hnot
  exact hnot

/-- A text that begins with something else than a blank is more than blanks. -/
theorem isEmpty_trim {c : Char} (h : isBlank c = false) (cs : List Char) :
    (trim (c :: cs)).isEmpty = false := by
  have hstart : trimStart (c :: cs) = c :: cs := trimStart_eq_self (by rintro d ⟨⟩; exact h)
  rw [List.isEmpty_eq_false_iff, trim, hstart]
  intro hnil
  unfold trimEnd at hnil
  rw [List.reverse_eq_nil_iff, List.dropWhile_eq_nil_iff] at hnil
  have hblank := hnil c (List.mem_reverse.2 List.mem_cons_self)
  rw [h] at hblank
  cases hblank

/-- What remains of a text that is more than blanks. -/
theorem trim_ne_nil {cs : List Char} {c : Char} (hmem : c ∈ cs) (hc : isBlank c = false) :
    trim cs ≠ [] := by
  have hblanks : ∀ d ∈ cs.takeWhile isBlank, isBlank d = true := fun d => List.mem_takeWhile_imp
  have hcs : cs.takeWhile isBlank ++ trimStart cs = cs := List.takeWhile_append_dropWhile
  have hfirst := List.head?_dropWhile_not isBlank cs
  rw [← hcs, trim_blanks_append hblanks]
  cases hstart : trimStart cs with
  | nil =>
    rw [← hcs, hstart, List.append_nil] at hmem
    rw [hblanks c hmem] at hc
    cases hc
  | cons d ds =>
    rw [← trimStart, hstart] at hfirst
    exact List.isEmpty_eq_false_iff.1 (isEmpty_trim (by simpa using hfirst) ds)

theorem trimEnd_isPrefix (cs : List Char) : trimEnd cs <+: cs := by
  have hsuffix := List.dropWhile_suffix (l := cs.reverse) isBlank
  rwa [← List.reverse_prefix, List.reverse_reverse] at hsuffix

/-- Trimming takes nothing out of the middle of a text. -/
theorem trim_infix (cs : List Char) : trim cs <:+: cs :=
  (trimEnd_isPrefix (trimStart cs)).isInfix.trans (List.dropWhile_suffix isBlank).isInfix

/-- A text does not begin with a blank once it is trimmed. -/
theorem head?_trim (cs : List Char) : ∀ c ∈ (trim cs).head?, isBlank c = false := by
  intro c hc
  obtain ⟨rest, hrest⟩ := List.head?_eq_some_iff.1 hc
  obtain ⟨blanks, hblanks⟩ := trimEnd_isPrefix (trimStart cs)
  have hfirst := List.head?_dropWhile_not isBlank cs
  rw [← trim, hrest] at hblanks
  rw [← trimStart, ← hblanks] at hfirst
  simpa using hfirst

/-- There is nothing left to trim in a trimmed text. -/
theorem trim_trim (cs : List Char) : trim (trim cs) = trim cs := by
  show trimEnd (trimStart (trim cs)) = trim cs
  rw [trimStart_eq_self (head?_trim cs), trimEnd_eq_self (getLast?_trim cs)]

/-! ## UTF-8 -/

/-- The bytes of a text are read as that text. -/
theorem strictUtf8?_utf8Bytes (s : String) : strictUtf8? (utf8Bytes s) = some s := by
  unfold strictUtf8? utf8Bytes
  rw [Array.toArray_toList]
  exact dif_pos s.isValidUTF8

/-- The byte of an ASCII character stands for itself in the bytes of a text. -/
theorem utf8Bytes_cons {c : Char} (h : c.utf8Size = 1) (cs : List Char) :
    utf8Bytes (String.ofList (c :: cs)) = c.toUInt8 :: utf8Bytes (String.ofList cs) := by
  unfold utf8Bytes
  rw [String.toUTF8_eq_toByteArray, String.toUTF8_eq_toByteArray, String.toByteArray_ofList,
    String.toByteArray_ofList, List.utf8Encode, List.utf8Encode, List.toList_data_toByteArray,
    List.toList_data_toByteArray, List.flatMap_cons, String.utf8EncodeChar_eq_singleton h]
  rfl

/-- No byte order mark begins with the byte of an ASCII character. -/
theorem mark?_cons {b : UInt8} (h : b < 0x80) (rest : List UInt8) :
    Encoding.mark? (b :: rest) = none := by
  unfold Encoding.mark?
  split
  · rename_i heq
    cases heq
    exact absurd h (by decide)
  · rename_i heq
    cases heq
    exact absurd h (by decide)
  · rename_i heq
    cases heq
    exact absurd h (by decide)
  · rfl

/-- A file with the bytes of a text that begins with an ASCII character is read as that text. -/
theorem ofFile?_utf8Bytes {c : Char} (hc : c.utf8Size = 1) (hb : c.toUInt8 < 0x80) (cs : List Char) :
    ofFile? (utf8Bytes (String.ofList (c :: cs))) = some (String.ofList (c :: cs)) := by
  have hmark : Encoding.mark? (utf8Bytes (String.ofList (c :: cs))) = none := by
    rw [utf8Bytes_cons hc]
    exact mark?_cons hb _
  rw [ofFile?, hmark]
  exact strictUtf8?_utf8Bytes _

end Rollmark.Text
