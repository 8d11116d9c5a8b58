/-
The canonical form of a formula: its text is read as the same formula again, so that two texts come down
to one text exactly when they are read as one formula.

Every layout has a canonical one, with plain numbers, the sides written out, the terms put together in one
term or none, and a star before the multiplier. It describes the same formula, and its characters are the
text of that formula.
-/
import Rollmark.Proofs.Formula.Grammar

namespace Rollmark.Formula

open Text (Numeral SignedNumeral)

theorem isTimes_star : isTimes '*' = true := rfl

namespace Layout

variable (l : Layout)

/-! ## The canonical layout -/

/-- The terms of the canonical form: one for all of them, and none when they come to nothing. -/
def canonicalTerms : List SignedNumeral :=
  if l.formula.adds = 0 then [] else [.ofInt l.formula.adds.val]

/-- A layout in canonical form. -/
def canonical : Layout where
  count := .ofNat l.formula.count
  sides := some (.ofNat l.formula.sides)
  terms := l.canonicalTerms
  multiplier := l.multiplier.map fun k => ⟨'*', isTimes_star, .ofNat k.number.value⟩
  divisor := l.divisor
  minOne := l.minOne

/-! ## The same formula -/

theorem sum_canonicalTerms : (l.canonicalTerms.map SignedNumeral.value).sum = l.formula.adds.val := by
  unfold canonicalTerms
  split
  · rename_i hzero
    rw [hzero]
    rfl
  · simp

theorem formula_canonical : l.canonical.formula = l.formula := by
  have hadds : Amount.clamp (l.canonicalTerms.map SignedNumeral.value).sum = l.formula.adds := by
    rw [sum_canonicalTerms, Amount.clamp_val]
  simp only [formula, canonical, Numeral.value_ofNat, Option.elim_some, Option.map_map, Function.comp_def,
    Formula.mk.injEq, and_self, and_true, true_and]
  exact hadds

theorem Within.canonical {l : Layout} (h : l.Within) : l.canonical.Within := by
  have hadds := l.formula.adds.fits
  constructor
  case count =>
    show (Numeral.ofNat l.count.value).value ≤ limit
    rw [Numeral.value_ofNat]
    exact h.count
  case sides =>
    -- sides that were not written are six
    rintro n ⟨⟩
    rw [Numeral.value_ofNat]
    show l.sides.elim 6 Numeral.value ≤ limit
    cases hsides : l.sides with
    | none => decide
    | some n => exact h.sides n hsides
  case terms =>
    show ∀ term ∈ l.canonicalTerms, Amount.Fits term.value
    unfold canonicalTerms
    split
    · exact nofun
    · simpa using hadds
  case sums =>
    show ∀ before, before <+: l.canonicalTerms.map SignedNumeral.value → Amount.Fits before.sum
    intro before hbefore
    unfold canonicalTerms at hbefore
    split at hbefore
    · obtain rfl := List.prefix_nil.1 hbefore
      exact Amount.fits_zero
    · rw [List.map_singleton, SignedNumeral.value_ofInt] at hbefore
      exact hadds.sum_of_singleton hbefore
  case multiplier =>
    intro k hk
    obtain ⟨typed, htyped, rfl⟩ := Option.map_eq_some_iff.1 hk
    rw [Numeral.value_ofNat]
    exact h.multiplier typed htyped

/-! ## Its characters -/

theorem flatMap_canonicalTerms : l.canonicalTerms.flatMap SignedNumeral.chars =
    (if l.formula.adds = 0 then "" else l.formula.adds.signedText).toList := by
  unfold canonicalTerms
  split
  · rfl
  · simp [Amount.chars_ofInt, Amount.signedText]

/-- The characters of the canonical form are the text of the formula. -/
theorem chars_canonical : String.ofList l.canonical.chars = l.formula.text := by
  have hparts : l.canonical.chars = Text.digits l.formula.count ++ 'd' :: (Text.digits l.formula.sides ++
      (l.canonicalTerms.flatMap SignedNumeral.chars ++ (l.canonical.multiplier.elim [] Times.chars ++
        (l.divisor.elim [] Divisor.chars ++ markChars l.minOne)))) := rfl
  rw [← String.toList_inj, String.toList_ofList, hparts, flatMap_canonicalTerms]
  simp only [text, String.toList_append, String.toList_ofList, List.append_assoc]
  -- only the parts behind the terms are still to be compared, each of them there or missing
  obtain ⟨count, sides, terms, multiplier, divisor, minOne⟩ := l
  cases multiplier <;> cases divisor <;> cases minOne <;>
    simp [formula, canonical, Times.chars, Divisor.chars, markChars, Numeral.ofNat]

end Layout

/-! ## Reading the canonical form -/

/-- The text of a formula that was read is read as this formula again. -/
theorem read?_text {s : String} {f : Formula} (h : read? s = some f) : read? f.text = some f := by
  obtain ⟨l, hwithin, -, rfl⟩ := read?_eq_some.1 h
  rw [← l.chars_canonical, read?_chars hwithin.canonical, l.formula_canonical]

/-- Reading undoes writing for every formula that was read. Hence writing it once more changes nothing, and
two texts have one canonical form exactly when they are read as one formula. -/
theorem ofText_text {s : String} {f : Formula} (h : ofText s = .ok f) :
    ofText f.text = .ok f ∧ (ofText f.text).map text = .ok f.text ∧
      ∀ t g, ofText t = .ok g → (f.text = g.text ↔ ofText s = ofText t) := by
  have hself : ofText f.text = .ok f := ofText_eq_ok.2 (read?_text (ofText_eq_ok.1 h))
  refine ⟨hself, ?_, ?_⟩
  · rw [hself]
    rfl
  · intro t g hg
    have hother : ofText g.text = .ok g := ofText_eq_ok.2 (read?_text (ofText_eq_ok.1 hg))
    rw [h, hg]
    constructor
    · intro htext
      rw [← hself, ← hother, htext]
    · intro hsame
      rw [Except.ok.inj hsame]

/-- Terms that go down to the least amount, a multiplier of zero and a divisor with a digit of another
script. -/
theorem ofText_text_least :
    let f : Formula := ⟨1, 6, .clamp (-2147483648), some 0, some ".\u0663", true⟩
    let bare : Formula := ⟨1, 6, 0, none, none, false⟩
    ofText " 1d -2147483647-1 X000(.\u0663)!" = .ok f ∧ ofText "01d" = .ok bare ∧
      ofText f.text = .ok f ∧ (ofText f.text).map text = .ok f.text ∧ f.text ≠ bare.text := by
  intro f bare
  have hterms : ofText " 1d -2147483647-1 X000(.\u0663)!" = .ok f := by decide
  have hbare : ofText "01d" = .ok bare := by decide
  obtain ⟨hself, hagain, hsame⟩ := ofText_text hterms
  refine ⟨hterms, hbare, hself, hagain, fun htext => ?_⟩
  have hread := (hsame "01d" bare hbare).1 htext
  rw [hterms, hbare] at hread
  exact absurd hread (by decide)

/-- Adds of zero are left out. -/
example : (ofText "3d+2-2 x 1").map text = .ok "3d6*1" := by cbv

end Rollmark.Formula
