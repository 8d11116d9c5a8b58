/-
Explicit sixes and white space. White space does not count when a formula is read, but it does when the
sixes are put in: in `3d 8` a six is put between the `d` and the blanks before its sides, and then there are
68 sides. This is all that can go wrong. Any other formula is read as before once the sixes are put in, and
what could not be read before cannot be read then.

A text that is read has one `d`, so that there is one place where a six can be put in.
-/
import Rollmark.Proofs.Formula.Reading
import Rollmark.Proofs.Formula.Sixes

namespace Rollmark.Formula

open Text (Numeral SignedNumeral)

/-! ## Texts with one `d` -/

theorem count_sixesFrom (p : Place) (cs : List Char) : (sixesFrom p cs).count 'd' = cs.count 'd' := by
  induction cs generalizing p with
  | nil => cases p <;> rfl
  | cons c cs ih =>
    have hstep : ∀ q, (if p = .marker then '6' :: c :: sixesFrom q cs else c :: sixesFrom q cs).count 'd' =
        (c :: cs).count 'd' := by
      intro q
      split
      · rw [List.count_cons_of_ne (by decide), List.count_cons, List.count_cons, ih]
      · rw [List.count_cons, List.count_cons, ih]
    rw [sixesFrom]
    split
    · rw [List.count_cons, List.count_cons, ih]
    · exact hstep _

theorem exists_of_count_eq_one {c : Char} {cs : List Char} (h : cs.count c = 1) :
    ∃ before after, cs = before ++ c :: after ∧ c ∉ before ∧ c ∉ after := by
  have hmem : c ∈ cs := List.count_pos_iff.1 (by omega)
  obtain ⟨before, after, rfl, hbefore⟩ := List.eq_append_cons_of_mem hmem
  rw [List.count_append, List.count_cons_self] at h
  exact ⟨before, after, rfl, hbefore, List.count_eq_zero.1 (by omega)⟩

/-! ## Sides in a layout -/

namespace Layout

variable {l : Layout}

/-- A layout with six sides. -/
def withSix (l : Layout) : Layout := { l with sides := some sixSides }

theorem Within.withSix (h : l.Within) : l.withSix.Within :=
  { h with sides := by rintro s ⟨⟩; decide }

/-- A six in front of what stands behind the `d` can be left out. -/
theorem exists_of_six {tail : List Char} (hwithin : l.Within) (h : l.behindLetter = '6' :: tail) :
    ∃ l' : Layout, l'.Within ∧ l'.count = l.count ∧ l'.behindLetter = tail := by
  have hsides : l.sides.isSome = true := by
    rw [← head?_behindLetter, h]
    rfl
  obtain ⟨n, hn⟩ := Option.isSome_iff_exists.1 hsides
  have hbound := hwithin.sides n hn
  obtain ⟨chars, hne, hdigits⟩ := n
  obtain ⟨d, ds, rfl⟩ := List.exists_cons_of_ne_nil hne
  rw [behindLetter, hn, Option.elim_some] at h
  obtain ⟨rfl, rfl⟩ := List.cons.inj h
  cases ds with
  | nil =>
    exact ⟨{ l with sides := none }, { hwithin with sides := nofun }, rfl, rfl⟩
  | cons d ds =>
    have hrest : ∀ c ∈ d :: ds, c.isDigit = true := fun c hc => hdigits c (List.mem_cons_of_mem _ hc)
    have hless := Text.valueOf_lt_cons (c := '6') (by decide) (d :: ds)
    refine ⟨{ l with sides := some ⟨d :: ds, List.cons_ne_nil d ds, hrest⟩ },
      { hwithin with sides := ?_ }, rfl, rfl⟩
    rintro s ⟨⟩
    exact Nat.le_trans (Nat.le_of_lt hless) hbound

end Layout

/-- A number with a six in front. -/
def sixBefore (n : Numeral) : Numeral :=
  ⟨'6' :: n.chars, List.cons_ne_nil _ _, List.forall_mem_cons.2 ⟨rfl, n.isDigit⟩⟩

/-- What is read has the sides that are written. -/
theorem sides_of_readCompact? {count sides : Numeral} {rest : List Char} {f : Formula}
    (hrest : ∀ c ∈ rest.head?, Text.isDecimalDigit c = false)
    (h : readCompact? (count.chars ++ 'd' :: (sides.chars ++ rest)) = some f) : f.sides = sides.value := by
  obtain ⟨l, -, hchars, rfl⟩ := readCompact?_eq_some.1 h
  have hletter : 'd' ∉ count.chars := fun hmem => absurd (isDecimalDigit_chars count 'd' hmem) (by decide)
  have hsides : l.sides.elim [] Numeral.chars = sides.chars := by
    rw [← l.takeWhile_behindLetter, (Layout.eq_of_chars hchars hletter).2,
      Text.takeWhile_run (isDecimalDigit_chars sides) hrest]
  show l.sides.elim 6 Numeral.value = sides.value
  cases hwritten : l.sides with
  | none =>
    rw [hwritten] at hsides
    exact absurd hsides.symm sides.ne_nil
  | some n =>
    rw [hwritten] at hsides
    exact congrArg Text.valueOf hsides

/-! ## Split sides -/

/-- Blanks stand between the `d` of a count and its sides. -/
def SplitSides (cs : List Char) : Prop :=
  ∃ before c blanks d after, cs = before ++ c :: 'd' :: (blanks ++ d :: after) ∧
    Text.isDecimalDigit c = true ∧ Text.isDecimalDigit d = true ∧
    blanks ≠ [] ∧ ∀ b ∈ blanks, Text.isBlank b = true

/-- In a text with one `d` the sides are split when a six is put in before them. -/
theorem splitSides_iff {before after : List Char} (hbefore : 'd' ∉ before) (hafter : 'd' ∉ after) :
    SplitSides (before ++ 'd' :: after) ↔
      isBare before after = true ∧ (compact after).head?.any Text.isDecimalDigit = true := by
  constructor
  · rintro ⟨front, c, blanks, d, rest, htext, hc, hd, hne, hblanks⟩
    rw [List.append_cons front] at htext
    obtain ⟨between, hfront, hbetween⟩ := Text.append_eq_append_cons hbefore htext
    cases between with
    | cons e between =>
      -- a second `d` would stand behind the first one
      obtain ⟨-, rfl⟩ := List.cons.inj hbetween
      exact absurd (List.mem_append_right between List.mem_cons_self) hafter
    | nil =>
      obtain ⟨-, rfl⟩ := List.cons.inj hbetween
      rw [List.append_nil] at hfront
      obtain ⟨b, bs, rfl⟩ := List.exists_cons_of_ne_nil hne
      have hb : Text.isDecimalDigit b = false := by
        rw [← Bool.not_eq_true]
        intro hdigit
        have hblank := hblanks b List.mem_cons_self
        rw [Text.isBlank_of_isDecimalDigit hdigit] at hblank
        cases hblank
      rw [compact_append, compact_blanks hblanks, compact_cons (Text.isBlank_of_isDecimalDigit hd), isBare,
        endsInDigit, ← hfront, List.getLast?_concat]
      simp [hc, hb, hd]
  · rintro ⟨hbare, hsides⟩
    rw [isBare, Bool.and_eq_true, Bool.not_eq_true'] at hbare
    obtain ⟨c, hlast, hc⟩ := (Option.any_eq_true _ _).1 hbare.1
    obtain ⟨front, rfl⟩ := List.getLast?_eq_some_iff.1 hlast
    obtain ⟨d, hhead, hd⟩ := (Option.any_eq_true _ _).1 hsides
    obtain ⟨ds, hds⟩ := List.head?_eq_some_iff.1 hhead
    obtain ⟨blanks, rest, rfl, hblanks, -⟩ := compact_eq_cons hds
    refine ⟨front, c, blanks, d, rest, (List.append_cons front c _).symm, hc, hd, ?_, hblanks⟩
    rintro rfl
    rw [List.nil_append, List.head?_cons, Option.any_some, hd] at hbare
    cases hbare.2

/-! ## Reading with explicit sixes -/

/-- A text that is read has one `d`, and what stands before and behind it is laid out. -/
theorem exists_one_of_read? {s : String} {f : Formula} (h : read? s = some f) :
    ∃ (l : Layout) (before after : List Char), l.Within ∧ l.formula = f ∧ s.toList = before ++ 'd' :: after ∧
      'd' ∉ before ∧ 'd' ∉ after ∧ compact before = l.count.chars ∧ compact after = l.behindLetter := by
  obtain ⟨l, hwithin, hchars, hf⟩ := read?_eq_some.1 h
  obtain ⟨before, after, hs, hbefore, hafter⟩ := compact_eq_append_cons hchars.symm
  refine ⟨l, before, after, hwithin, hf, hs, ?_, ?_, hbefore, hafter⟩
  · rw [← mem_compact (by decide), hbefore]
    exact l.notMem_count
  · rw [← mem_compact (by decide), hafter]
    exact l.notMem_behindLetter

section OneLetter

variable {s : String} {before after : List Char}

/-- A six is put in before the blanks behind the `d`. -/
theorem read?_withSixes_of_isBare (hs : s.toList = before ++ 'd' :: after) (hbefore : 'd' ∉ before)
    (hafter : 'd' ∉ after) (h : isBare before after = true) :
    read? (withSixes s) = readCompact? (compact before ++ 'd' :: '6' :: compact after) := by
  have hsixes : sixesFrom .outside s.toList = before ++ 'd' :: '6' :: after := by
    rw [hs, sixesFrom_one hbefore hafter, if_pos h]
  have hcompact : compact (before ++ 'd' :: '6' :: after) = compact before ++ 'd' :: '6' :: compact after := by
    rw [compact_append, compact_cons (by decide), compact_cons (by decide)]
  rw [read?, withSixes, String.toList_ofList, hsixes, ← hcompact]
  rfl

theorem withSixes_of_not_isBare (hs : s.toList = before ++ 'd' :: after) (hbefore : 'd' ∉ before)
    (hafter : 'd' ∉ after) (h : ¬ isBare before after = true) : withSixes s = s := by
  rw [withSixes, hs, sixesFrom_one hbefore hafter, if_neg h, ← hs, String.ofList_toList]

end OneLetter

/-- With a six behind its `d` a layout is read as before when no sides are written. -/
theorem Layout.readCompact?_six {l : Layout} (hwithin : l.Within) :
    readCompact? (l.count.chars ++ 'd' :: '6' :: l.behindLetter) = some l.formula ↔ l.sides = none := by
  cases hsides : l.sides with
  | none =>
    have hchars : l.withSix.chars = l.count.chars ++ 'd' :: '6' :: l.behindLetter := by
      rw [behindLetter, hsides]
      rfl
    have hformula : l.withSix.formula = l.formula := by
      rw [formula, formula, hsides]
      rfl
    exact iff_of_true (readCompact?_eq_some.2 ⟨l.withSix, hwithin.withSix, hchars, hformula⟩) rfl
  | some n =>
    -- the six goes in front of the sides, and then they are more
    refine iff_of_false (fun h => ?_) (Option.some_ne_none n)
    have hwritten : '6' :: l.behindLetter = (sixBefore n).chars ++ l.behindSides := by
      rw [behindLetter, hsides]
      rfl
    rw [hwritten] at h
    have hread := sides_of_readCompact? ((beginsIn_behindSides l).class_eq_false (by decide)) h
    have hless : n.value < (sixBefore n).value := Text.valueOf_lt_cons (by decide) n.chars
    have hn : l.formula.sides = n.value := by
      rw [formula, hsides]
      rfl
    omega

/-- What cannot be read cannot be read with explicit sixes. -/
theorem isSome_of_read?_withSixes {s : String} {f : Formula} (h : read? (withSixes s) = some f) :
    (read? s).isSome = true := by
  obtain ⟨l, -, hchars, -⟩ := read?_eq_some.1 h
  have hcount : s.toList.count 'd' = 1 := by
    rw [← count_sixesFrom .outside, ← l.count_chars, hchars, withSixes, String.toList_ofList]
    exact (List.count_filter rfl).symm
  obtain ⟨before, after, hs, hbefore, hafter⟩ := exists_of_count_eq_one hcount
  by_cases hbare : isBare before after = true
  · -- the six that was put in is left out again
    rw [read?_withSixes_of_isBare hs hbefore hafter hbare] at h
    obtain ⟨l, hwithin, hchars, -⟩ := readCompact?_eq_some.1 h
    obtain ⟨hfront, htail⟩ := Layout.eq_of_chars hchars (by rwa [mem_compact (by decide)])
    obtain ⟨l', hwithin', hcount', htail'⟩ := Layout.exists_of_six hwithin htail
    refine Option.isSome_iff_exists.2 ⟨l'.formula, read?_eq_some.2 ⟨l', hwithin', ?_, rfl⟩⟩
    show l'.count.chars ++ 'd' :: l'.behindLetter = _
    rw [hcount', hfront, htail', hs, compact_append, compact_cons (by decide)]
  · rw [withSixes_of_not_isBare hs hbefore hafter hbare] at h
    exact Option.isSome_iff_exists.2 ⟨f, h⟩

/-- A formula is read as before once the sixes are put in, unless blanks stand between its `d` and its
sides. Then it is not. -/
theorem read?_withSixes_eq_iff (s : String) :
    read? (withSixes s) = read? s ↔ ((read? s).isSome = true → ¬ SplitSides s.toList) := by
  cases hread : read? s with
  | none =>
    refine iff_of_true ?_ (fun h => by cases h)
    rw [Option.eq_none_iff_forall_ne_some]
    intro f hf
    have hsome := isSome_of_read?_withSixes hf
    rw [hread] at hsome
    cases hsome
  | some f =>
    obtain ⟨l, before, after, hwithin, rfl, hs, hbefore, hafter, hcount, htail⟩ := exists_one_of_read? hread
    have hsplit := splitSides_iff hbefore hafter
    rw [← hs, htail, Layout.head?_behindLetter] at hsplit
    rw [hsplit]
    by_cases hbare : isBare before after = true
    · rw [read?_withSixes_of_isBare hs hbefore hafter hbare, hcount, htail, Layout.readCompact?_six hwithin]
      simp [hbare]
    · rw [withSixes_of_not_isBare hs hbefore hafter hbare, hread]
      exact iff_of_true rfl fun _ h => hbare h.1

/-- Eight sides behind a blank become 68. -/
theorem read?_withSixes_split :
    read? "3d 8" = some ⟨3, 8, 0, none, none, false⟩ ∧
      read? (withSixes "3d 8") = some ⟨3, 68, 0, none, none, false⟩ := by
  decide

end Rollmark.Formula
