/-
What the scanners find, said without them: a lead stands in front of its rest, a run of digits is
maximal, a signed run is a sign with such a run behind it, and a text without separators is its own
only part. The classes of characters that the scanners tell apart do not overlap.
-/
import Rollmark.Proofs.Text
import Rollmark.Proofs.Text.Numeral

namespace Rollmark.Text

/-! ## Classes of characters -/

theorem zeroDigits_spec : ∀ z ∈ zeroDigits, z = 0x30 ∨ 0x660 ≤ z := by decide

/-- Beside the digits `0` to `9` all decimal digits are beyond ASCII. -/
theorem isDecimalDigit_cases {c : Char} (h : isDecimalDigit c = true) :
    c.isDigit = true ∨ 0x660 ≤ c.toNat := by
  simp only [isDecimalDigit, List.any_eq_true, Bool.and_eq_true, decide_eq_true_eq] at h
  obtain ⟨z, hz, hlow, hhigh⟩ := h
  rcases zeroDigits_spec z hz with rfl | hbig
  · left
    simp only [Char.isDigit, Bool.and_eq_true, decide_eq_true_eq, ge_iff_le, UInt32.le_iff_toNat_le]
    exact ⟨hlow, hhigh⟩
  · right; omega

theorem isDecimalDigit_of_isDigit {c : Char} (h : c.isDigit = true) : isDecimalDigit c = true := by
  simp only [Char.isDigit, Bool.and_eq_true, decide_eq_true_eq, ge_iff_le, UInt32.le_iff_toNat_le] at h
  simp only [isDecimalDigit, List.any_eq_true, Bool.and_eq_true, decide_eq_true_eq]
  exact ⟨0x30, by decide, h.1, h.2⟩

theorem isAlpha_bounds {c : Char} (h : c.isAlpha = true) : 65 ≤ c.toNat ∧ c.toNat ≤ 122 := by
  change (decide (65 ≤ c.val ∧ c.val ≤ 90) || 97 ≤ c.val && c.val ≤ 122) = true at h
  simp only [Bool.or_eq_true, Bool.and_eq_true, decide_eq_true_eq, UInt32.le_iff_toNat_le] at h
  change (65 ≤ c.toNat ∧ c.toNat ≤ 90) ∨ (97 ≤ c.toNat ∧ c.toNat ≤ 122) at h
  omega

theorem isDigit_bounds {c : Char} (h : c.isDigit = true) : 48 ≤ c.toNat ∧ c.toNat ≤ 57 := by
  simp only [Char.isDigit, Bool.and_eq_true, decide_eq_true_eq, ge_iff_le, UInt32.le_iff_toNat_le] at h
  exact h

/-- A decimal digit is no letter. -/
theorem isAlpha_of_isDecimalDigit {c : Char} (h : isDecimalDigit c = true) : c.isAlpha = false := by
  by_contra hne
  obtain ⟨hlow, hhigh⟩ := isAlpha_bounds (Bool.not_eq_false _ ▸ hne)
  rcases isDecimalDigit_cases h with hd | hbig
  · have := isDigit_bounds hd
    omega
  · omega

/-- No run of digits beyond ASCII holds a blank. -/
theorem zeroDigits_blank : ∀ z ∈ zeroDigits, z = 0x30 ∨ (0x660 ≤ z ∧ z + 9 < 0x1680) ∨
    (0x1680 < z ∧ z + 9 < 0x2000) ∨ 0x3000 < z := by decide

/-- A decimal digit is no blank. -/
theorem isBlank_of_isDecimalDigit {c : Char} (h : isDecimalDigit c = true) : isBlank c = false := by
  simp only [isDecimalDigit, List.any_eq_true, Bool.and_eq_true, decide_eq_true_eq] at h
  obtain ⟨z, hz, hlow, hhigh⟩ := h
  have hrun := zeroDigits_blank z hz
  simp only [isBlank, Bool.or_eq_false_iff, Bool.and_eq_false_iff, decide_eq_false_iff_not,
    beq_eq_false_iff_ne]
  omega

/-- A digit is no blank. -/
theorem isBlank_of_isDigit {c : Char} (h : c.isDigit = true) : isBlank c = false :=
  isBlank_of_isDecimalDigit (isDecimalDigit_of_isDigit h)

/-- A letter is no digit. -/
theorem isDigit_of_isAlpha {c : Char} (h : c.isAlpha = true) : c.isDigit = false := by
  by_contra hne
  have hdigit := isDecimalDigit_of_isDigit (Bool.not_eq_false _ ▸ hne)
  rw [isAlpha_of_isDecimalDigit hdigit] at h
  cases h

/-- A letter is no blank. -/
theorem isBlank_of_isAlpha {c : Char} (h : c.isAlpha = true) : isBlank c = false := by
  have hbounds := isAlpha_bounds h
  simp only [isBlank, Bool.or_eq_false_iff, Bool.and_eq_false_iff, decide_eq_false_iff_not,
    beq_eq_false_iff_ne]
  omega

theorem isDigit_of_isBlank {c : Char} (h : isBlank c = true) : c.isDigit = false := by
  by_contra hne
  rw [isBlank_of_isDigit (Bool.not_eq_false _ ▸ hne)] at h
  cases h

theorem isAlpha_of_isBlank {c : Char} (h : isBlank c = true) : c.isAlpha = false := by
  by_contra hne
  rw [isBlank_of_isAlpha (Bool.not_eq_false _ ▸ hne)] at h
  cases h

theorem isSign_iff {c : Char} : isSign c = true ↔ c = '+' ∨ c = '-' := by
  simp [isSign]

/-- A decimal digit is no sign. -/
theorem isSign_of_isDecimalDigit {c : Char} (h : isDecimalDigit c = true) : isSign c = false := by
  rw [← Bool.not_eq_true, isSign_iff]
  rintro (rfl | rfl) <;> exact absurd h (by decide)

theorem isAlpha_of_isSign {c : Char} (h : isSign c = true) : c.isAlpha = false := by
  rcases isSign_iff.1 h with rfl | rfl <;> rfl

/-! ## Leads -/

theorem dropLead?_eq_some {lead cs rest : List Char} :
    dropLead? lead cs = some rest ↔ cs = lead ++ rest := by
  constructor
  · intro h
    fun_induction dropLead? lead cs with
    | case1 cs => cases h; rfl
    | case2 => cases h
    | case3 l lead cs ih => rw [ih h, List.cons_append]
    | case4 => cases h
  · rintro rfl
    exact dropLead?_append lead rest

theorem isSome_dropLead? (lead cs : List Char) :
    (dropLead? lead cs).isSome = lead.isPrefixOf cs := by
  rw [Bool.eq_iff_iff, Option.isSome_iff_exists, List.isPrefixOf_iff_prefix]
  exact exists_congr fun rest => dropLead?_eq_some.trans eq_comm

theorem suffix_of_dropLead? {lead cs rest : List Char} (h : dropLead? lead cs = some rest) : rest <:+ cs :=
  ⟨lead, (dropLead?_eq_some.1 h).symm⟩

theorem skip_eq_self {c : Char} {cs : List Char} (h : cs.head? ≠ some c) : skip c cs = cs := by
  cases cs with
  | nil => rfl
  | cons d cs => exact if_neg fun hd => h (congrArg some hd)

theorem skip_suffix (c : Char) (cs : List Char) : skip c cs <:+ cs := by
  cases cs with
  | nil => exact List.suffix_refl _
  | cons d cs =>
    rw [skip]
    split
    · exact List.suffix_cons d cs
    · exact List.suffix_refl _

/-! ## The first place of a character -/

theorem head?_dropWhile {p : Char → Bool} (cs : List Char) : ∀ c ∈ (cs.dropWhile p).head?, p c = false := by
  intro c hc
  have hnot := List.head?_dropWhile_not p cs
  rw [hc] at hnot
  exact hnot

/-- Where a search for a character stops before the end, it stops at that character. -/
theorem eq_append_of_dropWhile {c d : Char} {cs rest : List Char}
    (h : cs.dropWhile (· != c) = d :: rest) : cs = cs.takeWhile (· != c) ++ c :: rest := by
  have hd : (d != c) = false := head?_dropWhile cs d (by rw [h]; rfl)
  have hcs := List.takeWhile_append_dropWhile (p := (· != c)) (l := cs)
  rw [h, bne_eq_false_iff_eq.1 hd] at hcs
  exact hcs.symm

theorem dropWhile_ne_nil {c : Char} {cs : List Char} (h : c ∈ cs) : cs.dropWhile (· != c) ≠ [] := by
  intro hnil
  have hne := List.dropWhile_eq_nil_iff.1 hnil c h
  rw [bne_self_eq_false] at hne
  cases hne

theorem notMem_takeWhile (c : Char) (cs : List Char) : c ∉ cs.takeWhile (· != c) := by
  intro h
  have hne := List.mem_takeWhile_imp h
  rw [bne_self_eq_false] at hne
  cases hne

/-- What stands before a character does not reach into a text without it. -/
theorem append_eq_append_cons {c : Char} {free rest before after : List Char} (hfree : c ∉ free)
    (h : free ++ rest = before ++ c :: after) :
    ∃ between, before = free ++ between ∧ rest = between ++ c :: after := by
  rcases List.append_eq_append_iff.1 h with ⟨between, hbefore, hrest⟩ | ⟨between, hfree', hrest⟩
  · exact ⟨between, hbefore, hrest⟩
  · cases between with
    | nil => exact ⟨[], by rw [hfree', List.append_nil, List.append_nil], hrest.symm⟩
    | cons d between =>
      obtain ⟨rfl, -⟩ := List.cons.inj hrest
      exact absurd (hfree' ▸ List.mem_append_right before List.mem_cons_self) hfree

/-! ## Runs of digits -/

/-- A run of digits is maximal. -/
theorem digitRun?_eq_some {cs run rest : List Char} : digitRun? cs = some (run, rest) ↔
    cs = run ++ rest ∧ run ≠ [] ∧ (∀ c ∈ run, isDecimalDigit c = true) ∧
      ∀ c ∈ rest.head?, isDecimalDigit c = false := by
  constructor
  · intro h
    unfold digitRun? at h
    split at h
    · cases h
    · rename_i hne
      cases h
      exact ⟨List.takeWhile_append_dropWhile.symm, hne, fun c => List.mem_takeWhile_imp,
        head?_dropWhile cs⟩
  · rintro ⟨rfl, hne, hrun, hrest⟩
    unfold digitRun?
    rw [takeWhile_run hrun hrest, dropWhile_run hrun hrest]
    split
    · contradiction
    · rfl

theorem digitRun?_digits (n : Nat) {rest : List Char} (hrest : ∀ c ∈ rest.head?, isDecimalDigit c = false) :
    digitRun? (digits n ++ rest) = some (digits n, rest) :=
  digitRun?_eq_some.2 ⟨rfl, digits_ne_nil n,
    fun _ hc => isDecimalDigit_of_isDigit (isDigit_of_mem_digits hc), hrest⟩

theorem digitRun?_eq_none {cs : List Char} :
    digitRun? cs = none ↔ ∀ c ∈ cs.head?, isDecimalDigit c = false := by
  cases cs with
  | nil => exact iff_of_true rfl nofun
  | cons c cs =>
    rw [digitRun?, List.head?_cons]
    cases hc : isDecimalDigit c with
    | true => simp [hc]
    | false => simp [hc]

/-- A signed run is a sign and a run of digits. -/
theorem signedRun?_eq_some {cs run rest : List Char} : signedRun? cs = some (run, rest) ↔
    ∃ sign digits, isSign sign = true ∧ run = sign :: digits ∧ cs = sign :: (digits ++ rest) ∧
      digits ≠ [] ∧ (∀ c ∈ digits, isDecimalDigit c = true) ∧
        ∀ c ∈ rest.head?, isDecimalDigit c = false := by
  constructor
  · intro h
    unfold signedRun? at h
    split at h
    · rename_i c cs
      split at h
      · rename_i hsign
        obtain ⟨⟨digits, rest'⟩, hdigits, hrun⟩ := Option.map_eq_some_iff.1 h
        obtain ⟨hcs, hne, hall, hrest⟩ := digitRun?_eq_some.1 hdigits
        cases hrun
        exact ⟨c, digits, hsign, rfl, by rw [hcs], hne, hall, hrest⟩
      · cases h
    · cases h
  · rintro ⟨sign, digits, hsign, rfl, rfl, hne, hall, hrest⟩
    rw [signedRun?, if_pos hsign, digitRun?_eq_some.2 ⟨rfl, hne, hall, hrest⟩]
    rfl

theorem signedRun?_cons (c : Char) (cs : List Char) :
    signedRun? (c :: cs) =
      (if isSign c then digitRun? cs else none).map fun (digits, rest) => (c :: digits, rest) := by
  rw [signedRun?]
  split <;> rfl

/-- A text that does not begin with a sign has no signed run in front. -/
theorem signedRun?_eq_none {cs : List Char} (h : ∀ c ∈ cs.head?, isSign c = false) :
    signedRun? cs = none := by
  cases cs with
  | nil => rfl
  | cons c cs =>
    have hc : isSign c = false := h c rfl
    rw [signedRun?, hc]
    rfl

/-! ## Parts -/

theorem split_ne_nil (sep : Char) (cs : List Char) : split sep cs ≠ [] := by
  cases cs with
  | nil => exact List.cons_ne_nil _ _
  | cons c cs =>
    rw [split]
    split
    · split <;> exact List.cons_ne_nil _ _
    · exact List.cons_ne_nil _ _

theorem split_cons_self (sep : Char) (cs : List Char) : split sep (sep :: cs) = [] :: split sep cs := by
  rw [split]
  split
  · rename_i h; rw [if_pos rfl, h]
  · rename_i h; exact absurd h (split_ne_nil sep cs)

theorem split_cons_of_ne {sep c : Char} (h : c ≠ sep) {cs part : List Char} {more : List (List Char)}
    (hs : split sep cs = part :: more) : split sep (c :: cs) = (c :: part) :: more := by
  rw [split, hs]
  exact if_neg h

/-- A text without separators is its only part. -/
theorem split_of_notMem {sep : Char} {part : List Char} (h : sep ∉ part) : split sep part = [part] := by
  induction part with
  | nil => rfl
  | cons c part ih =>
    rw [List.mem_cons, not_or] at h
    exact split_cons_of_ne (Ne.symm h.1) (ih h.2)

/-- The first part ends at the first separator. -/
theorem split_append {sep : Char} {part : List Char} (h : sep ∉ part) (rest : List Char) :
    split sep (part ++ sep :: rest) = part :: split sep rest := by
  induction part with
  | nil => exact split_cons_self sep rest
  | cons c part ih =>
    rw [List.mem_cons, not_or] at h
    exact split_cons_of_ne (Ne.symm h.1) (ih h.2)

/-- The first part stands in front of the text, and nothing or a separator follows it. -/
theorem split_eq_cons {sep : Char} {cs part : List Char} {more : List (List Char)}
    (h : split sep cs = part :: more) : ∃ rest, cs = part ++ rest ∧ ∀ c ∈ rest.head?, c = sep := by
  by_cases hmem : sep ∈ cs
  · obtain ⟨first, rest, rfl, hfirst⟩ := List.eq_append_cons_of_mem hmem
    rw [split_append hfirst] at h
    cases h
    exact ⟨sep :: rest, rfl, by rintro c ⟨⟩; rfl⟩
  · rw [split_of_notMem hmem] at h
    cases h
    exact ⟨[], (List.append_nil cs).symm, nofun⟩

/-- The parts with separators between them are the text again. -/
theorem flatMap_of_split {sep : Char} {cs part : List Char} {more : List (List Char)}
    (h : split sep cs = part :: more) : part ++ more.flatMap (sep :: ·) = cs := by
  induction cs generalizing part more with
  | nil =>
    cases h
    rfl
  | cons c cs ih =>
    obtain ⟨first, others, hsplit⟩ := List.exists_cons_of_ne_nil (split_ne_nil sep cs)
    have hcs := ih hsplit
    by_cases hc : c = sep
    · rw [hc, split_cons_self, hsplit] at h
      cases h
      rw [List.nil_append, List.flatMap_cons, List.cons_append, hcs, hc]
    · rw [split_cons_of_ne hc hsplit] at h
      cases h
      rw [List.cons_append, hcs]

/-- No part holds a separator. -/
theorem notMem_of_mem_split {sep : Char} {cs part : List Char} (h : part ∈ split sep cs) : sep ∉ part := by
  induction cs generalizing part with
  | nil =>
    rw [split, List.mem_singleton] at h
    rw [h]
    exact List.not_mem_nil
  | cons c cs ih =>
    obtain ⟨first, more, hsplit⟩ := List.exists_cons_of_ne_nil (split_ne_nil sep cs)
    by_cases hc : c = sep
    · rw [hc, split_cons_self, List.mem_cons] at h
      rcases h with rfl | h
      · exact List.not_mem_nil
      · exact ih h
    · rw [split_cons_of_ne hc hsplit, List.mem_cons] at h
      rcases h with rfl | h
      · rw [List.mem_cons, not_or]
        exact ⟨Ne.symm hc, ih (hsplit ▸ List.mem_cons_self)⟩
      · exact ih (hsplit ▸ List.mem_cons_of_mem first h)

end Rollmark.Text
