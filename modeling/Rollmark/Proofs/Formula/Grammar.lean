/-
The grammar of formulas: a text is read exactly when it is laid out within the limits once its white
space is gone, and the formula then has the numbers, the armor divisor and the mark of that layout. Every
other text is refused with an error that names it as it was given.
-/
import Rollmark.Proofs.Formula.Reading

namespace Rollmark.Formula

open Text (Numeral SignedNumeral)

variable {s : String} {f : Formula}

theorem ofText_eq_ok : ofText s = .ok f ↔ read? s = some f := by
  unfold ofText
  cases read? s <;> simp

/-- A text that is not read is named in the error. -/
theorem ofText_eq_error {e : Error} : ofText s = .error e ↔ read? s = none ∧ e = .invalidFormula s := by
  unfold ofText
  cases read? s <;> simp [eq_comm]

/-- A formula has the parts of a layout: without sides there are six, and the adds are the sum of the
terms. -/
structure Layout.Describes (l : Layout) (f : Formula) : Prop where
  count : f.count = l.count.value
  sides : f.sides = l.sides.elim 6 Numeral.value
  adds : f.adds.val = (l.terms.map SignedNumeral.value).sum
  multiplier : f.multiplier = l.multiplier.map (·.number.value)
  divisor : f.armorDivisor = l.divisor.map (String.ofList ·.inside)
  minOne : f.minOne = l.minOne

/-- Within the limits a layout describes one formula, because the sum of its terms is an amount. -/
theorem Layout.describes_iff {l : Layout} (h : l.Within) : l.Describes f ↔ l.formula = f := by
  have hadds : l.formula.adds.val = (l.terms.map SignedNumeral.value).sum :=
    (h.sums _ (List.prefix_refl _)).val_clamp
  constructor
  · intro hd
    have hsum : l.formula.adds = f.adds := Amount.eq_of_val_eq (hadds.trans hd.adds.symm)
    cases f
    rw [formula, Formula.mk.injEq]
    exact ⟨hd.count.symm, hd.sides.symm, hsum, hd.multiplier.symm, hd.divisor.symm, hd.minOne.symm⟩
  · rintro rfl
    exact ⟨rfl, rfl, hadds, rfl, rfl, rfl⟩

/-- A text is read as a formula exactly when it is a layout within the limits that describes this formula,
white space apart. A text without such a layout is refused, and the error names it unchanged. -/
theorem ofText_grammar (s : String) :
    (∀ f, ofText s = .ok f ↔ ∃ l : Layout, l.Within ∧ l.chars = compact s.toList ∧ l.Describes f) ∧
      ∀ e, ofText s = .error e ↔
        (∀ l : Layout, l.Within → l.chars ≠ compact s.toList) ∧ e = .invalidFormula s := by
  constructor
  · intro f
    rw [ofText_eq_ok, read?_eq_some]
    constructor
    · rintro ⟨l, hwithin, hchars, hf⟩
      exact ⟨l, hwithin, hchars, (Layout.describes_iff hwithin).2 hf⟩
    · rintro ⟨l, hwithin, hchars, hd⟩
      exact ⟨l, hwithin, hchars, (Layout.describes_iff hwithin).1 hd⟩
  · intro e
    rw [ofText_eq_error, Option.eq_none_iff_forall_ne_some]
    refine and_congr_left fun _ => ⟨fun h l hwithin hchars => ?_, fun h f hf => ?_⟩
    · exact h l.formula (read?_eq_some.2 ⟨l, hwithin, hchars, rfl⟩)
    · obtain ⟨l, hwithin, hchars, -⟩ := read?_eq_some.1 hf
      exact h l hwithin hchars

/-- Blanks may stand anywhere, the terms are added up, and a sum beyond the limits is refused on the way. -/
example : ofText "2 d -1+1 0 X 3(.\u0665)!" = .ok ⟨2, 6, 9, some 3, some ".\u0665", true⟩ ∧
    ofText "1d+2147483647+1-1" = .error (.invalidFormula "1d+2147483647+1-1") := by decide

end Rollmark.Formula
