/-
The order of modifiers: rolls that count the same modifiers in different orders come out the same, as long as
the amounts together are within the limits. So the order in which modifiers were collected does not count,
although it decides where their entries stand in the bucket and in the report.
-/
import Rollmark.Proofs.Bucket.Collect
import Rollmark.Proofs.Report

namespace Rollmark

/-! ## Reports up to order -/

/-- Two reports that may differ in the order of their modifiers, and in their texts, which tell the order. -/
structure Report.Agrees (r r' : Report) : Prop where
  label : r.label = r'.label
  faces : r.faces = r'.faces
  outcome : r.outcome = r'.outcome
  visibility : r.visibility = r'.visibility
  fatigueCost : r.fatigueCost = r'.fatigueCost
  modifiers : r.modifiers.Perm r'.modifiers

section Order

variable {ms ms' : List Modifier} (h : ms.Perm ms') (hlimit : Modifier.weight ms ≤ 2147483647)
  (request : RollRequest) (formula : Formula) (dice : Dice)
include h hlimit

theorem rollCheck_of_perm (target : Amount) :
    (rollCheck request target formula ms dice).1.Agrees (rollCheck request target formula ms' dice).1 := by
  have hfinal := finalTarget_of_perm h hlimit target
  have hcost := fatigueCost_of_perm h
  refine ⟨rfl, rfl, ?_, rfl, hcost, h⟩
  simp only [rollCheck, hfinal]

theorem rollOpen_of_perm :
    (rollOpen request formula ms dice).1.Agrees (rollOpen request formula ms' dice).1 := by
  have htotal := Modifier.total_of_perm h hlimit
  have hcost := fatigueCost_of_perm h
  refine ⟨rfl, rfl, ?_, rfl, hcost, h⟩
  simp only [rollOpen, htotal]

/-- The order of the modifiers does not count for a roll, neither for its report nor for the dice. -/
theorem RollRequest.rolled_of_perm :
    (request.rolled formula ms dice).1.Agrees (request.rolled formula ms' dice).1 ∧
      (request.rolled formula ms dice).2 = (request.rolled formula ms' dice).2 := by
  unfold rolled
  cases request.target with
  | none => exact ⟨rollOpen_of_perm h hlimit request formula dice, rfl⟩
  | some target =>
    dsimp only
    split
    · exact ⟨rollCheck_of_perm h hlimit request formula dice target, rfl⟩
    · exact ⟨rollOpen_of_perm h hlimit request formula dice, rfl⟩

end Order

/-! ## Collected modifiers -/

/-- The order in which modifiers were collected does not count, repeated descriptions included, as long as
they weigh no more than the limit together with the one-shot modifiers. A roll fails after both orders, and
only when its formula cannot be read, or it leaves the same dice and an empty bucket after both, and the two
reports agree in all but the order of the modifiers. -/
theorem resolve_addAll_of_perm {ms ms' : List Modifier} (h : ms.Perm ms') {request : RollRequest}
    (hlimit : Modifier.weight (request.oneShot ++ ms) ≤ 2147483647) (dice : Dice) :
    let first := resolve request (Bucket.empty.addAll ms) dice
    let second := resolve request (Bucket.empty.addAll ms') dice
    (Formula.read? request.formula = none ∧ first.1 = .error (.invalidFormula request.formula) ∧
      second.1 = .error (.invalidFormula request.formula)) ∨
    ∃ report report' dice', first = (.ok report, .empty, dice') ∧ second = (.ok report', .empty, dice') ∧
      report.Agrees report' := by
  intro first second
  rw [Modifier.weight_append] at hlimit
  have hcollects : Bucket.Collects ms (Bucket.empty.addAll ms).entries :=
    Bucket.collects_addAll (by omega)
  have hcollects' : Bucket.Collects ms' (Bucket.empty.addAll ms').entries := by
    rw [Modifier.weight_of_perm h] at hlimit
    exact Bucket.collects_addAll (by omega)
  cases hread : Formula.read? request.formula with
  | none =>
    have hfirst := resolve_of_unreadable hread (Bucket.empty.addAll ms) dice
    have hsecond := resolve_of_unreadable hread (Bucket.empty.addAll ms') dice
    exact .inl ⟨rfl, congrArg Prod.fst hfirst, congrArg Prod.fst hsecond⟩
  | some formula =>
    have hperm : (request.oneShot ++ (Bucket.empty.addAll ms).entries).Perm
        (request.oneShot ++ (Bucket.empty.addAll ms').entries) :=
      (hcollects.perm hcollects' h).append_left request.oneShot
    -- what is merged into one entry weighs no more than its parts
    have hcounted : Modifier.weight (request.oneShot ++ (Bucket.empty.addAll ms).entries) ≤ 2147483647 := by
      have hweight := hcollects.weight
      rw [Modifier.weight_append]
      omega
    obtain ⟨hagrees, hdice⟩ := RollRequest.rolled_of_perm hperm hcounted request formula dice
    have hsecond := resolve_of_read hread (Bucket.empty.addAll ms') dice
    dsimp only at hsecond
    rw [← hdice] at hsecond
    exact .inr ⟨_, _, _, resolve_of_read hread (Bucket.empty.addAll ms) dice, hsecond, hagrees⟩

/-- A bonus in two parts around a cap with a cost, for a check with a typed modifier. The parts make one
entry, which stands before the cap or behind it. -/
theorem resolve_addAll_of_perm_parts :
    let first : Modifier := ⟨2, "aim"⟩
    let second : Modifier := ⟨1, "aim"⟩
    let charge : Modifier := ⟨4, "charge *Max:9 *Cost 1FP"⟩
    let shock : Modifier := ⟨.clamp (-4), "shock"⟩
    let request : RollRequest := { RollRequest.check 12 "Broadsword" with oneShot := [shock] }
    [first, charge, second].Perm [charge, second, first] ∧
      Modifier.weight (request.oneShot ++ [first, charge, second]) ≤ 2147483647 ∧
      ∃ report report' dice',
        resolve request (Bucket.empty.addAll [first, charge, second]) (.ofFaces [3, 3, 4]) =
          (.ok report, .empty, dice') ∧
        resolve request (Bucket.empty.addAll [charge, second, first]) (.ofFaces [3, 3, 4]) =
          (.ok report', .empty, dice') ∧
        report.Agrees report' ∧ report.outcome.target = some 9 ∧ report.fatigueCost = 1 ∧
        report.modifiers = [shock, ⟨3, "aim"⟩, charge] ∧ report'.modifiers = [shock, charge, ⟨3, "aim"⟩] := by
  intro first second charge shock request
  have hperm : [first, charge, second].Perm [charge, second, first] := by decide
  have hlimit : Modifier.weight (request.oneShot ++ [first, charge, second]) ≤ 2147483647 := by decide
  refine ⟨hperm, hlimit, ?_⟩
  rcases resolve_addAll_of_perm hperm hlimit (.ofFaces [3, 3, 4]) with ⟨hnone, -, -⟩ | hreports
  · exact absurd hnone (by decide)
  · obtain ⟨report, report', dice', hfirst, hsecond, hagrees⟩ := hreports
    have hshown : (resolve request (Bucket.empty.addAll [first, charge, second])
        (.ofFaces [3, 3, 4])).1.toOption.map (fun r => (r.outcome.target, r.fatigueCost, r.modifiers)) =
          some (some 9, 1, [shock, ⟨3, "aim"⟩, charge]) := by decide
    have hshown' : (resolve request (Bucket.empty.addAll [charge, second, first])
        (.ofFaces [3, 3, 4])).1.toOption.map Report.modifiers =
          some [shock, charge, ⟨3, "aim"⟩] := by decide
    rw [hfirst] at hshown
    rw [hsecond] at hshown'
    simp only [Except.toOption, Option.map_some, Option.some.injEq, Prod.mk.injEq] at hshown hshown'
    exact ⟨report, report', dice', hfirst, hsecond, hagrees, hshown.1, hshown.2.1, hshown.2.2, hshown'⟩

end Rollmark
