/-
What formulas are read from: only a layout within the limits is read, and only as the formula that its
parts describe. The scanners of the parts are gone through in their order, and each of them leaves the text
of its part and what follows.
-/
import Rollmark.Proofs.Formula.Layout

namespace Rollmark.Formula

open Text (Numeral SignedNumeral)

/-! ## Numbers -/

theorem bounded?_eq_some {digits : List Char} {n : Nat} : bounded? digits = some n ↔
    digits ≠ [] ∧ (∀ c ∈ digits, c.isDigit = true) ∧ Text.valueOf digits = n ∧ n ≤ limit := by
  rw [bounded?, Option.filter_eq_some_iff, Text.natural?_eq_some, decide_eq_true_eq, and_assoc, and_assoc]

theorem exists_bounded? {digits : List Char} (hne : digits ≠ []) :
    (∃ n, bounded? digits = some n) ↔
      (∀ c ∈ digits, c.isDigit = true) ∧ Text.valueOf digits ≤ limit := by
  simp only [bounded?_eq_some]
  constructor
  · rintro ⟨n, -, hdigits, rfl, hbound⟩
    exact ⟨hdigits, hbound⟩
  · rintro ⟨hdigits, hbound⟩
    exact ⟨_, hne, hdigits, rfl, hbound⟩

theorem exists_numeral {cs : List Char} {n : Nat} (h : bounded? cs = some n) :
    ∃ num : Numeral, num.chars = cs ∧ num.value = n ∧ n ≤ limit := by
  obtain ⟨hne, hdigits, hvalue, hbound⟩ := bounded?_eq_some.1 h
  exact ⟨⟨cs, hne, hdigits⟩, rfl, hvalue, hbound⟩

theorem exists_sides {cs : List Char} {n : Nat} (h : sides? cs = some n) :
    ∃ sides : Option Numeral, sides.elim [] Numeral.chars = cs ∧ sides.elim 6 Numeral.value = n ∧
      ∀ s ∈ sides, s.value ≤ limit := by
  rw [sides?] at h
  split at h
  · rename_i hempty
    cases h
    exact ⟨none, (List.isEmpty_iff.1 hempty).symm, rfl, by rintro s ⟨⟩⟩
  · obtain ⟨num, hchars, rfl, hbound⟩ := exists_numeral h
    exact ⟨some num, hchars, rfl, by rintro s ⟨⟩; exact hbound⟩

theorem exists_signedNumeral {sign : Char} {ds : List Char} {a : Amount} (hsign : Text.isSign sign = true)
    (h : Amount.read? (sign :: ds) = some a) :
    ∃ term : SignedNumeral, term.chars = sign :: ds ∧ term.value = a.val := by
  obtain ⟨n, hn, ha⟩ := Option.bind_eq_some_iff.1 h
  have hval := Amount.val_of_ofInt? ha
  rcases Text.isSign_iff.1 hsign with rfl | rfl
  all_goals
    obtain ⟨m, hm, rfl⟩ := Option.map_eq_some_iff.1 hn
    obtain ⟨hne, hdigits, rfl⟩ := Text.natural?_eq_some.1 hm
  · exact ⟨⟨false, ⟨ds, hne, hdigits⟩⟩, rfl, hval.symm⟩
  · exact ⟨⟨true, ⟨ds, hne, hdigits⟩⟩, rfl, hval.symm⟩

/-! ## Signed terms -/

theorem signedTerms_of_sign {cs : List Char} (h : ∀ c ∈ cs.head?, Text.isSign c = true) :
    (signedTerms cs).flatten = cs ∧ ∀ term ∈ signedTerms cs, IsTerm term := by
  cases cs with
  | nil => exact ⟨rfl, nofun⟩
  | cons c cs =>
    obtain ⟨ds, more, hterms, hcs, hmore⟩ := signedTerms_spec c cs
    rw [hterms, List.flatten_cons, List.cons_append, hcs]
    exact ⟨rfl, List.forall_mem_cons.2 ⟨⟨c, ds, rfl, h c rfl⟩, hmore⟩⟩

theorem exists_terms {parts : List (List Char)} {start sum : Amount} (hparts : ∀ part ∈ parts, IsTerm part)
    (h : sumTerms? start parts = some sum) :
    ∃ terms : List SignedNumeral, terms.map SignedNumeral.chars = parts ∧
      (∀ term ∈ terms, Amount.Fits term.value) ∧
      (∀ before, before <+: terms.map SignedNumeral.value → Amount.Fits (start.val + before.sum)) ∧
      sum.val = start.val + (terms.map SignedNumeral.value).sum := by
  induction parts generalizing start with
  | nil =>
    cases h
    refine ⟨[], rfl, nofun, fun before hbefore => ?_, (Int.add_zero _).symm⟩
    rw [List.map_nil, List.prefix_nil] at hbefore
    rw [hbefore, List.sum_nil, Int.add_zero]
    exact sum.fits
  | cons part parts ih =>
    rw [List.forall_mem_cons] at hparts
    obtain ⟨⟨sign, ds, rfl, hsign⟩, hmore⟩ := hparts
    rw [sumTerms?] at h
    split at h
    · rename_i next hnext
      obtain ⟨a, ha, hadd⟩ := Option.bind_eq_some_iff.1 hnext
      have hval := Amount.val_of_ofInt? hadd
      obtain ⟨term, hchars, hvalue⟩ := exists_signedNumeral hsign ha
      obtain ⟨terms, rfl, hfits, hsums, hsum⟩ := ih hmore h
      have hterm : Amount.Fits term.value := hvalue ▸ a.fits
      rw [hval, ← hvalue] at hsums hsum
      refine ⟨term :: terms, by rw [List.map_cons, hchars], List.forall_mem_cons.2 ⟨hterm, hfits⟩, ?_, ?_⟩
      · intro before hbefore
        rw [List.map_cons] at hbefore
        rcases List.prefix_cons_iff.1 hbefore with rfl | ⟨before, rfl, hprefix⟩
        · rw [List.sum_nil, Int.add_zero]
          exact start.fits
        · rw [List.sum_cons, ← Int.add_assoc]
          exact hsums before hprefix
      · rw [List.map_cons, List.sum_cons, ← Int.add_assoc, hsum]
    · cases h

theorem exists_termList {cs : List Char} {adds : Amount} (hfirst : ∀ c ∈ cs.head?, Text.isSign c = true)
    (h : sumTerms? 0 (signedTerms cs) = some adds) :
    ∃ terms : List SignedNumeral, terms.flatMap SignedNumeral.chars = cs ∧
      (∀ term ∈ terms, Amount.Fits term.value) ∧
      (∀ before, before <+: terms.map SignedNumeral.value → Amount.Fits before.sum) ∧
      .clamp (terms.map SignedNumeral.value).sum = adds := by
  obtain ⟨hflat, hparts⟩ := signedTerms_of_sign hfirst
  obtain ⟨terms, hterms, hfits, hsums, hsum⟩ := exists_terms hparts h
  have hzero : (0 : Amount).val = 0 := rfl
  rw [hzero] at hsum hsums
  simp only [Int.zero_add] at hsum hsums
  exact ⟨terms, by rw [List.flatMap_def, hterms, hflat], hfits, hsums, by rw [← hsum, Amount.clamp_val]⟩

/-! ## The parts behind the terms -/

theorem exists_times {cs rest : List Char} {k : Option Nat} (h : multiplier? cs = some (k, rest)) :
    ∃ times : Option Times, cs = times.elim [] Times.chars ++ rest ∧ k = times.map (·.number.value) ∧
      ∀ t ∈ times, t.number.value ≤ limit := by
  cases cs with
  | nil =>
    cases h
    exact ⟨none, rfl, rfl, nofun⟩
  | cons c cs =>
    rw [multiplier?] at h
    split at h
    · rename_i hletter
      obtain ⟨n, hn, hrest⟩ := Option.map_eq_some_iff.1 h
      cases hrest
      obtain ⟨num, hchars, rfl, hbound⟩ := exists_numeral hn
      refine ⟨some ⟨c, hletter, num⟩, ?_, rfl, by rintro t ⟨⟩; exact hbound⟩
      show c :: cs = c :: (num.chars ++ _)
      rw [hchars, List.takeWhile_append_dropWhile]
    · cases h
      exact ⟨none, rfl, rfl, nofun⟩

theorem exists_divisor {cs rest : List Char} {d : Option String} (h : divisor? cs = some (d, rest)) :
    ∃ divisor : Option Divisor, cs = divisor.elim [] Divisor.chars ++ rest ∧
      d = divisor.map (String.ofList ·.inside) := by
  unfold divisor? at h
  split at h
  · rename_i cs
    split at h
    · rename_i c inside rest' htake hdrop
      cases h
      have hclass : ∀ d ∈ c :: inside, isDivisorChar d = true := fun d hd =>
        List.mem_takeWhile_imp (htake ▸ hd)
      refine ⟨some ⟨c :: inside, List.cons_ne_nil _ _, hclass⟩, ?_, rfl⟩
      rw [← List.takeWhile_append_dropWhile (p := isDivisorChar) (l := cs), htake, hdrop]
      simp [Divisor.chars]
    · cases h
  · cases h
    exact ⟨none, rfl, rfl⟩

theorem markChars_of_minOne? {cs : List Char} {minOne : Bool} (h : minOne? cs = some minOne) :
    markChars minOne = cs := by
  unfold minOne? at h
  split at h
  · cases h
    rfl
  · cases h
    rfl
  · cases h

/-! ## Reading -/

/-- Exactly the layouts within the limits are read. -/
theorem readCompact?_eq_some {cs : List Char} {f : Formula} :
    readCompact? cs = some f ↔ ∃ l : Layout, l.Within ∧ l.chars = cs ∧ l.formula = f := by
  constructor
  · intro h
    unfold readCompact? at h
    split at h
    · rename_i rest hdrop
      simp only [Option.bind_eq_bind, Option.bind_eq_some_iff, Prod.exists] at h
      obtain ⟨count, hcount, sides, hsides, adds, hadds, times, behindTimes, htimes, divisor, behindDivisor,
        hdivisor, minOne, hminOne, hf⟩ := h
      cases hf
      obtain ⟨count, hcountChars, rfl, hcountBound⟩ := exists_numeral hcount
      obtain ⟨sides, hsidesChars, rfl, hsidesBound⟩ := exists_sides hsides
      obtain ⟨times, htimesChars, rfl, htimesBound⟩ := exists_times htimes
      obtain ⟨divisor, rfl, rfl⟩ := exists_divisor hdivisor
      obtain rfl := markChars_of_minOne? hminOne
      -- what stands behind the sides is no digit, so that the first term begins with a sign
      have hfirst : ∀ c ∈ ((rest.dropWhile Text.isDecimalDigit).takeWhile
          fun c => Text.isSign c || Text.isDecimalDigit c).head?, Text.isSign c = true := by
        intro c hc
        rw [List.head?_takeWhile] at hc
        obtain ⟨hhead, hclass⟩ := Option.filter_eq_some_iff.1 hc
        rwa [Text.head?_dropWhile rest c hhead, Bool.or_false] at hclass
      obtain ⟨terms, htermsChars, hfits, hsums, rfl⟩ := exists_termList hfirst hadds
      refine ⟨⟨count, sides, terms, times, divisor, minOne⟩,
        ⟨hcountBound, hsidesBound, hfits, hsums, htimesBound⟩, ?_, rfl⟩
      rw [Layout.chars, Layout.behindSides, hcountChars, hsidesChars, htermsChars, ← htimesChars,
        List.takeWhile_append_dropWhile, List.takeWhile_append_dropWhile, ← hdrop,
        List.takeWhile_append_dropWhile]
    · cases h
  · rintro ⟨l, hwithin, rfl, rfl⟩
    exact readCompact?_chars hwithin

/-- What is left of a text when white space does not count. -/
def compact (cs : List Char) : List Char := cs.filter fun c => !Text.isBlank c

@[simp] theorem compact_append (cs ds : List Char) : compact (cs ++ ds) = compact cs ++ compact ds :=
  List.filter_append cs ds

theorem compact_cons {c : Char} (h : Text.isBlank c = false) (cs : List Char) :
    compact (c :: cs) = c :: compact cs :=
  List.filter_cons_of_pos (by rw [h]; rfl)

theorem compact_blanks {blanks : List Char} (h : ∀ c ∈ blanks, Text.isBlank c = true) :
    compact blanks = [] :=
  List.filter_eq_nil_iff.2 fun c hc => by rw [h c hc]; exact Bool.false_ne_true

theorem compact_eq_self {cs : List Char} (h : ∀ c ∈ cs, Text.isBlank c = false) : compact cs = cs :=
  List.filter_eq_self.2 fun c hc => by rw [h c hc]; rfl

theorem mem_compact {c : Char} (h : Text.isBlank c = false) {cs : List Char} : c ∈ compact cs ↔ c ∈ cs := by
  rw [compact, List.mem_filter, h]
  exact and_iff_left rfl

/-- A character of what is left stands in the text behind blanks only. -/
theorem compact_eq_cons {c : Char} {cs ds : List Char} (h : compact cs = c :: ds) :
    ∃ blanks rest, cs = blanks ++ c :: rest ∧ (∀ b ∈ blanks, Text.isBlank b = true) ∧ compact rest = ds := by
  obtain ⟨blanks, rest, rfl, hblanks, -, hrest⟩ := List.filter_eq_cons_iff.1 h
  exact ⟨blanks, rest, rfl, fun b hb => by simpa using hblanks b hb, hrest⟩

/-- What is left is taken apart where the text can be. -/
theorem compact_eq_append_cons {c : Char} {cs ds es : List Char} (h : compact cs = ds ++ c :: es) :
    ∃ before after, cs = before ++ c :: after ∧ compact before = ds ∧ compact after = es := by
  obtain ⟨before, behind, rfl, hbefore, hbehind⟩ := List.filter_eq_append_iff.1 h
  obtain ⟨blanks, after, rfl, hblanks, hafter⟩ := compact_eq_cons hbehind
  refine ⟨before ++ blanks, after, by rw [List.append_assoc], ?_, hafter⟩
  rw [compact_append, compact_blanks hblanks, List.append_nil]
  exact hbefore

/-- A formula is read when its text without blanks is a layout within the limits. -/
theorem read?_eq_some {s : String} {f : Formula} :
    read? s = some f ↔ ∃ l : Layout, l.Within ∧ l.chars = compact s.toList ∧ l.formula = f :=
  readCompact?_eq_some

end Rollmark.Formula
