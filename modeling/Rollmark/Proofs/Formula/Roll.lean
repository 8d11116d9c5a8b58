/-
Rolls of a formula: at most a thousand dice are rolled, each face is between one and the sides of its die,
and with so few and such small faces their sum stays far from the limits. The total is at least one where
the formula says so, never less for greater faces or a greater modifier, and exact as long as no partial
result leaves the limits.
-/
import Rollmark.Proofs.Dice
import Rollmark.Proofs.Formula.Total

namespace Rollmark.Formula

variable (f : Formula) (modifier : Amount) (dice : Dice)

theorem draw_dice : dice.draw (List.replicate (min f.count 1000) (min f.sides 1000)) =
    ((f.roll modifier dice).1.faces, (f.roll modifier dice).2) :=
  Dice.draw_replicate _ _ dice

theorem face_bounds : ∀ face ∈ (f.roll modifier dice).1.faces, 1 ≤ face ∧ face ≤ max 1 (min f.sides 1000) := by
  intro face hface
  rw [Nat.max_comm]
  exact Dice.rollMany_bounds _ _ dice face hface

theorem sum_faces_le : (f.roll modifier dice).1.faces.sum ≤ 1000000 := by
  have hsum : (f.roll modifier dice).1.faces.sum ≤ min f.count 1000 * max (min f.sides 1000) 1 :=
    Dice.sum_rollMany_le _ _ dice
  have hproduct : min f.count 1000 * max (min f.sides 1000) 1 ≤ 1000 * 1000 :=
    Nat.mul_le_mul (by omega) (by omega)
  omega

/-- No sum of faces on the way is stopped at a limit. -/
theorem val_sum_faces {before : List Nat} (h : before <+: (f.roll modifier dice).1.faces) :
    (Amount.sum (before.map fun (face : Nat) => Amount.clamp face)).val = (before.sum : Nat) := by
  obtain ⟨after, hfaces⟩ := h
  have hsum := f.sum_faces_le modifier dice
  rw [← hfaces, List.sum_append] at hsum
  rw [Amount.sum_clamp]
  exact Amount.val_clamp (by omega) (by omega)

/-- A roll of any formula with any modifier and dice. Its total is at least one where the formula says so,
it is never less with greater faces or a greater modifier, and it is exact as long as no partial result
leaves the limits. A thousand dice are rolled at most, no face is beyond the sides of its die, and no sum of
faces is stopped on the way. -/
theorem roll_total :
    let roll := (f.roll modifier dice).1
    (f.minOne = true → 1 ≤ roll.total) ∧
    (∀ modifier' dice', modifier ≤ modifier' →
      List.Forall₂ (· ≤ ·) roll.faces (f.roll modifier' dice').1.faces →
      roll.total ≤ (f.roll modifier' dice').1.total) ∧
    (f.Exact roll.faces modifier.val → roll.total.val = f.exactTotal roll.faces modifier.val) ∧
    dice.draw (List.replicate (min f.count 1000) (min f.sides 1000)) = (roll.faces, (f.roll modifier dice).2) ∧
    (∀ face ∈ roll.faces, 1 ≤ face ∧ face ≤ max 1 (min f.sides 1000)) ∧
    ∀ before, before <+: roll.faces →
      (Amount.sum (before.map fun (face : Nat) => Amount.clamp face)).val = (before.sum : Nat) := by
  intro roll
  refine ⟨fun h => f.one_le_raised h _, fun modifier' dice' hmodifier hfaces => ?_, fun h => val_total h,
    f.draw_dice modifier dice, f.face_bounds modifier dice, fun before h => f.val_sum_faces modifier dice h⟩
  exact f.total_le_total hfaces hmodifier

/-- A total that is raised to one, and one with greater faces and a greater modifier that is not. -/
theorem roll_total_raised :
    let f : Formula := ⟨3, 6, .clamp (-4), some 2, none, true⟩
    let low := (f.roll (.clamp (-5)) (.ofFaces [1, 2, 3])).1
    let high := (f.roll (.clamp (-4)) (.ofFaces [2, 2, 6])).1
    (f.minOne = true ∧ 1 ≤ low.total) ∧
    (Amount.clamp (-5) ≤ .clamp (-4) ∧ List.Forall₂ (· ≤ ·) low.faces high.faces ∧ low.total ≤ high.total) ∧
    (f.Exact low.faces (-5) ∧ low.total.val = 1) ∧
    (2 ∈ low.faces ∧ 2 ≤ max 1 (min f.sides 1000)) ∧
    [1, 2] <+: low.faces ∧ (Amount.sum [.clamp 1, .clamp 2]).val = 3 := by
  intro f low high
  obtain ⟨hone, hgreater, hexact, -, hbounds, hsum⟩ := roll_total f (.clamp (-5)) (.ofFaces [1, 2, 3])
  have hmodifier : Amount.clamp (-5) ≤ .clamp (-4) := by decide
  have hfaces : List.Forall₂ (· ≤ ·) low.faces high.faces := by
    show List.Forall₂ (· ≤ ·) [1, 2, 3] [2, 2, 6]
    simp
  have hlimits : f.Exact low.faces (-5) :=
    ⟨⟨by decide, by decide⟩, ⟨by decide, by decide⟩, ⟨by decide, by decide⟩, ⟨by decide, by decide⟩,
      ⟨by decide, by decide⟩⟩
  have hface : 2 ∈ low.faces := by decide
  have hfirst : [1, 2] <+: low.faces := ⟨[3], rfl⟩
  exact ⟨⟨rfl, hone rfl⟩, ⟨hmodifier, hfaces, hgreater _ _ hmodifier hfaces⟩, ⟨hlimits, hexact hlimits⟩,
    ⟨hface, (hbounds 2 hface).2⟩, hfirst, hsum _ hfirst⟩

end Rollmark.Formula
