/-
Reports: a roll reads its formula before it touches anything, and then its faces are one roll of the
dice of that formula. What its modifiers cost is never negative, and what they come to does not depend
on their order as long as their amounts together are within the limits.
-/
import Mathlib.Algebra.BigOperators.Group.List.Basic
import Rollmark.Proofs.Bucket.Balance
import Rollmark.Proofs.Text.Scan
import Rollmark.Report

namespace Rollmark

/-! ## Costs -/

namespace Directive

theorem isDecimalDigit_costDigits? {cs digits : List Char} (h : costDigits? cs = some digits) :
    ∀ c ∈ digits, Text.isDecimalDigit c = true := by
  simp only [costDigits?, Option.bind_eq_bind, Option.bind_eq_some_iff, Prod.exists] at h
  obtain ⟨star, -, word, -, behind, -, run, rest, hrun, unit, -, hdigits⟩ := h
  cases hdigits
  exact (Text.digitRun?_eq_some.1 hrun).2.2.1

/-- No description gives fatigue back. -/
theorem nonneg_fatigueCost {desc : String} {cost : Amount} (h : (ofDesc desc).fatigueCost = some cost) :
    0 ≤ cost.val := by
  obtain ⟨digits, hfound, hread⟩ := Option.bind_eq_some_iff.1 h
  obtain ⟨-, place, -, hplace, -⟩ := Text.firstFound_eq_some.1 hfound
  refine Amount.nonneg_of_read? (fun hminus => ?_) hread
  have hdigit := isDecimalDigit_costDigits? hplace '-' (List.mem_of_mem_head? hminus)
  exact absurd hdigit (by decide)

end Directive

section Costs

variable {ms ms' : List Modifier}

theorem nonneg_of_mem_costs : ∀ cost ∈ ms.filterMap fun m => m.directive.fatigueCost, 0 ≤ cost.val := by
  intro cost hcost
  obtain ⟨m, -, hm⟩ := List.mem_filterMap.1 hcost
  exact Directive.nonneg_fatigueCost hm

theorem nonneg_fatigueCost (ms : List Modifier) : 0 ≤ (fatigueCost ms).val := by
  rw [fatigueCost, Amount.sum_of_nonneg nonneg_of_mem_costs]
  show 0 ≤ max (-2147483648) (min (_ : Int) 2147483647)
  omega

/-- Costs are not negative, so the sum of them stops at the same place in every order. -/
theorem fatigueCost_of_perm (h : ms.Perm ms') : fatigueCost ms = fatigueCost ms' := by
  have hcosts := (h.filterMap fun m => m.directive.fatigueCost).map (·.val.toNat)
  rw [fatigueCost, fatigueCost, Amount.sum_of_nonneg nonneg_of_mem_costs,
    Amount.sum_of_nonneg nonneg_of_mem_costs, hcosts.sum_nat]

end Costs

/-! ## Caps -/

/-- The least cap is one of the caps and no greater than any of them. -/
theorem cap?_eq_some_iff {ms : List Modifier} {least : Amount} :
    cap? ms = some least ↔ (∃ m ∈ ms, m.directive.maxTarget = some least) ∧
      ∀ m ∈ ms, ∀ cap, m.directive.maxTarget = some cap → least ≤ cap := by
  rw [cap?, List.min?_eq_some_iff, List.mem_filterMap]
  refine and_congr_right fun _ => ?_
  constructor
  · intro hle m hm cap hcap
    exact hle cap (List.mem_filterMap.2 ⟨m, hm, hcap⟩)
  · intro hle cap hcap
    obtain ⟨m, hm, hcap⟩ := List.mem_filterMap.1 hcap
    exact hle m hm cap hcap

/-- The order of modifiers does not count for their least cap. -/
theorem cap?_of_perm {ms ms' : List Modifier} (h : ms.Perm ms') : cap? ms = cap? ms' :=
  Option.ext fun cap => by simp only [cap?_eq_some_iff, h.mem_iff]

/-! ## Totals -/

namespace Modifier

theorem total_nil : total [] = 0 := rfl

theorem natAbs_sum_le (ns : List Int) : ns.sum.natAbs ≤ (ns.map Int.natAbs).sum := by
  induction ns with
  | nil => exact Nat.le_refl 0
  | cons n ns ih =>
    rw [List.sum_cons, List.map_cons, List.sum_cons]
    omega

/-- A total is exact when the absolute values of the amounts together are within the limits. -/
theorem val_total_of_weight {ms : List Modifier} (h : weight ms ≤ 2147483647) :
    (total ms).val = (ms.map (·.amount.val)).sum := by
  refine val_total fun before hbefore => ?_
  obtain ⟨rest, hrest⟩ := hbefore
  have hweight : weight ms = (before.map Int.natAbs).sum + (rest.map Int.natAbs).sum := by
    rw [← List.sum_append, ← List.map_append, hrest, List.map_map]
    rfl
  have hbound := natAbs_sum_le before
  exact ⟨by omega, by omega⟩

theorem weight_of_perm {ms ms' : List Modifier} (h : ms.Perm ms') : weight ms = weight ms' := by
  have hweights : (ms.map (·.amount.val.natAbs)).Perm (ms'.map (·.amount.val.natAbs)) := h.map _
  exact hweights.sum_nat

/-- Within the limits the order of modifiers does not count for their total. -/
theorem total_of_perm {ms ms' : List Modifier} (h : ms.Perm ms') (hlimit : weight ms ≤ 2147483647) :
    total ms = total ms' := by
  have hlimit' := hlimit
  rw [weight_of_perm h] at hlimit'
  refine Amount.eq_of_val_eq ?_
  rw [val_total_of_weight hlimit, val_total_of_weight hlimit', (h.map (·.amount.val)).sum_eq]

end Modifier

theorem finalTarget_of_perm {ms ms' : List Modifier} (h : ms.Perm ms')
    (hlimit : Modifier.weight ms ≤ 2147483647) (target : Amount) :
    finalTarget target ms = finalTarget target ms' := by
  rw [finalTarget, finalTarget, Modifier.total_of_perm h hlimit, cap?_of_perm h]

/-! ## Rolls -/

namespace RollRequest

/-- The report of a roll that counts the given modifiers, and the dice after it. -/
def rolled (request : RollRequest) (formula : Formula) (modifiers : List Modifier) (dice : Dice) :
    Report × Dice :=
  match request.target with
  | some target =>
    if 0 < target then rollCheck request target formula modifiers dice
    else rollOpen request formula modifiers dice
  | none => rollOpen request formula modifiers dice

section Rolled

variable (request : RollRequest) (formula : Formula) (modifiers : List Modifier) (dice : Dice)

/-- A positive target is rolled against. -/
theorem rolled_of_pos {target : Amount} (htarget : request.target = some target) (hpos : 0 < target) :
    request.rolled formula modifiers dice = rollCheck request target formula modifiers dice := by
  unfold rolled
  rw [htarget]
  exact if_pos hpos

/-- Any other target counts as none. -/
theorem rolled_of_not_pos (h : ∀ target, request.target = some target → ¬ 0 < target) :
    request.rolled formula modifiers dice = rollOpen request formula modifiers dice := by
  unfold rolled
  split
  · rename_i target htarget
    exact if_neg (h target htarget)
  · rfl

/-- A roll is a check against a positive target, or it has no target. -/
theorem rolled_cases :
    (∃ target, request.rolled formula modifiers dice = rollCheck request target formula modifiers dice) ∨
      request.rolled formula modifiers dice = rollOpen request formula modifiers dice := by
  unfold rolled
  split
  · split
    · exact .inl ⟨_, rfl⟩
    · exact .inr rfl
  · exact .inr rfl

@[simp] theorem rolled_modifiers : (request.rolled formula modifiers dice).1.modifiers = modifiers := by
  rcases request.rolled_cases formula modifiers dice with ⟨target, h⟩ | h <;> rw [h] <;> rfl

@[simp] theorem rolled_fatigueCost :
    (request.rolled formula modifiers dice).1.fatigueCost = fatigueCost modifiers := by
  rcases request.rolled_cases formula modifiers dice with ⟨target, h⟩ | h <;> rw [h] <;> rfl

/-- The faces in a report are one roll of the dice of its formula, and the dice are left behind as that
roll leaves them. -/
theorem rolled_faces :
    ((request.rolled formula modifiers dice).1.faces, (request.rolled formula modifiers dice).2) =
      dice.rollMany (min formula.sides Formula.limit) (min formula.count Formula.limit) := by
  rcases request.rolled_cases formula modifiers dice with ⟨target, h⟩ | h <;> rw [h] <;> rfl

end Rolled

end RollRequest

section Resolve

variable {request : RollRequest} {bucket bucket' : Bucket} {dice dice' : Dice} {report : Report}

/-- A roll whose formula can be read counts its one-shot modifiers and then everything that is in the
bucket. -/
theorem resolve_of_read {formula : Formula} (h : Formula.read? request.formula = some formula)
    (bucket : Bucket) (dice : Dice) :
    let rolled := request.rolled formula (request.oneShot ++ bucket.entries) dice
    resolve request bucket dice = (.ok rolled.1, .empty, rolled.2) := by
  unfold resolve Formula.ofText
  rw [h]
  rfl

/-- A formula that cannot be read makes a roll fail before anything is touched. -/
theorem resolve_of_unreadable (h : Formula.read? request.formula = none) (bucket : Bucket) (dice : Dice) :
    resolve request bucket dice = (.error (.invalidFormula request.formula), bucket, dice) := by
  unfold resolve Formula.ofText
  rw [h]

/-- A roll that fails has an unreadable formula and leaves bucket and dice alone. -/
theorem resolve_error {e : Error} (h : resolve request bucket dice = (.error e, bucket', dice')) :
    Formula.read? request.formula = none ∧ e = .invalidFormula request.formula ∧
      bucket' = bucket ∧ dice' = dice := by
  cases hread : Formula.read? request.formula with
  | none =>
    rw [resolve_of_unreadable hread] at h
    cases h
    exact ⟨rfl, rfl, rfl, rfl⟩
  | some formula =>
    rw [resolve_of_read hread] at h
    cases h

/-- Only a formula that cannot be read makes a roll fail. -/
theorem resolve_fst_eq_error_iff {e : Error} : (resolve request bucket dice).1 = .error e ↔
    e = .invalidFormula request.formula ∧ Formula.read? request.formula = none := by
  unfold resolve Formula.ofText
  cases Formula.read? request.formula with
  | none => simp [eq_comm]
  | some formula => simp

/-- A roll that succeeds has a formula that can be read, and nothing stays in the bucket. -/
theorem resolve_ok (h : resolve request bucket dice = (.ok report, bucket', dice')) :
    ∃ formula, Formula.read? request.formula = some formula ∧ bucket' = .empty ∧
      (report, dice') = request.rolled formula (request.oneShot ++ bucket.entries) dice := by
  cases hread : Formula.read? request.formula with
  | none =>
    rw [resolve_of_unreadable hread] at h
    cases h
  | some formula =>
    rw [resolve_of_read hread] at h
    cases h
    exact ⟨formula, rfl, rfl, rfl⟩

theorem resolve_modifiers (h : resolve request bucket dice = (.ok report, bucket', dice')) :
    report.modifiers = request.oneShot ++ bucket.entries := by
  obtain ⟨formula, -, -, hrolled⟩ := resolve_ok h
  have hmodifiers := request.rolled_modifiers formula (request.oneShot ++ bucket.entries) dice
  rwa [← hrolled] at hmodifiers

theorem resolve_fatigueCost (h : resolve request bucket dice = (.ok report, bucket', dice')) :
    report.fatigueCost = fatigueCost (request.oneShot ++ bucket.entries) := by
  obtain ⟨formula, -, -, hrolled⟩ := resolve_ok h
  have hcost := request.rolled_fatigueCost formula (request.oneShot ++ bucket.entries) dice
  rwa [← hrolled] at hcost

end Resolve

end Rollmark
