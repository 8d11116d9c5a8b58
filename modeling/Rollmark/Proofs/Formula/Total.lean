/-
Totals: without limits a total is the faces and the adds, times the multiplier, and the modifier, and at
least one where the formula says so. The total of a roll is this one as long as no partial result leaves
the limits, and whether they are left or not, greater faces and a greater modifier never make it less.
-/
import Mathlib.Algebra.Order.BigOperators.Group.List
import Mathlib.Algebra.Order.Ring.Nat
import Rollmark.Formula
import Rollmark.Proofs.Amount

namespace Rollmark.Formula

/-! ## Parts of a total -/

section Parts

variable (f : Formula)

/-- The faces and the adds, times the multiplier. Every step stops at the limits of an amount. -/
def product (faces : List Nat) : Amount :=
  (Amount.sum (faces.map fun (face : Nat) => Amount.clamp face) + f.adds) * Amount.clamp (f.multiplier.getD 1)

/-- An amount that is at least one where the formula says so. -/
def raised (plain : Amount) : Amount := if f.minOne && plain < 1 then 1 else plain

/-- The modifier is added once, behind the multiplier and before the total is raised. -/
theorem total_eq (faces : List Nat) (modifier : Amount) :
    f.total faces modifier = f.raised (f.product faces + modifier) := rfl

theorem val_raised (plain : Amount) :
    (f.raised plain).val = if f.minOne ∧ plain.val < 1 then 1 else plain.val := by
  simp only [raised, Bool.and_eq_true, decide_eq_true_eq]
  show (if f.minOne = true ∧ plain.val < 1 then (1 : Amount) else plain).val = _
  split <;> rfl

theorem one_le_raised (h : f.minOne = true) (plain : Amount) : 1 ≤ f.raised plain := by
  show 1 ≤ (f.raised plain).val
  rw [val_raised]
  split
  · exact le_refl 1
  · rename_i hraised
    rw [not_and] at hraised
    exact Int.not_lt.1 (hraised h)

theorem raised_le_raised {plain plain' : Amount} (h : plain ≤ plain') : f.raised plain ≤ f.raised plain' := by
  have hvals : plain.val ≤ plain'.val := h
  show (f.raised plain).val ≤ (f.raised plain').val
  rw [val_raised, val_raised]
  cases f.minOne with
  | false => simpa using hvals
  | true =>
    simp only [true_and]
    split <;> split <;> omega

end Parts

/-! ## Greater faces -/

section Greater

variable (f : Formula) {faces faces' : List Nat}

/-- A multiplier is never negative, so that it keeps the order of what it multiplies. -/
theorem product_le_product (h : List.Forall₂ (· ≤ ·) faces faces') : f.product faces ≤ f.product faces' := by
  have hsum : ((faces.sum : Nat) : Int) ≤ (faces'.sum : Nat) := Int.ofNat_le.2 h.sum_le_sum
  have hfactor : 0 ≤ (Amount.clamp (f.multiplier.getD 1 : Nat)).val := by
    show (0 : Int) ≤ max (-2147483648) (min ((f.multiplier.getD 1 : Nat) : Int) 2147483647)
    omega
  unfold product
  rw [Amount.sum_clamp, Amount.sum_clamp]
  apply Amount.mul_le_mul_right _ hfactor
  exact Amount.add_le_add (Amount.clamp_le_clamp hsum) (le_refl f.adds)

theorem total_le_total {modifier modifier' : Amount} (hfaces : List.Forall₂ (· ≤ ·) faces faces')
    (hmodifier : modifier ≤ modifier') : f.total faces modifier ≤ f.total faces' modifier' := by
  rw [total_eq, total_eq]
  apply raised_le_raised
  exact Amount.add_le_add (f.product_le_product hfaces) hmodifier

end Greater

/-! ## Totals without limits -/

section Totals

variable (f : Formula) (faces : List Nat)

/-- The faces and the adds, times the multiplier. -/
def exactProduct : Int := ((faces.sum : Nat) + f.adds.val) * (f.multiplier.getD 1 : Nat)

/-- The total without limits. -/
def exactTotal (modifier : Int) : Int :=
  let plain := f.exactProduct faces + modifier
  if f.minOne ∧ plain < 1 then 1 else plain

/-- No partial result of a total leaves the limits. -/
structure Exact (modifier : Int) : Prop where
  sum : Amount.Fits (faces.sum : Nat)
  adds : Amount.Fits ((faces.sum : Nat) + f.adds.val)
  factor : Amount.Fits (f.multiplier.getD 1 : Nat)
  product : Amount.Fits (f.exactProduct faces)
  plain : Amount.Fits (f.exactProduct faces + modifier)

end Totals

section Exact

variable {f : Formula} {faces : List Nat} {modifier : Amount} (h : f.Exact faces modifier.val)
include h

theorem val_product : (f.product faces).val = f.exactProduct faces := by
  have hsum : (Amount.sum (faces.map fun (face : Nat) => Amount.clamp face)).val = (faces.sum : Nat) := by
    rw [Amount.sum_clamp, h.sum.val_clamp]
  have hadds : (Amount.sum (faces.map fun (face : Nat) => Amount.clamp face) + f.adds).val =
      (faces.sum : Nat) + f.adds.val := by
    rw [Amount.add_def, hsum, h.adds.val_clamp]
  rw [product, Amount.mul_def, hadds, h.factor.val_clamp]
  exact h.product.val_clamp

/-- The total is exact when no partial result leaves the limits. -/
theorem val_total : (f.total faces modifier).val = f.exactTotal faces modifier.val := by
  have hplain : (f.product faces + modifier).val = f.exactProduct faces + modifier.val := by
    rw [Amount.add_def, val_product h, h.plain.val_clamp]
  rw [total_eq, val_raised, hplain]
  rfl

end Exact

end Rollmark.Formula
