/-
Outcomes: what the conditions of a classification say in whole numbers, and that a higher roll never comes
out better and a higher target never worse. Hits of rapid fire are counted from the margin alone, so they
are reported only for dice below the target, and of those only 18 and more fail.

The order of two outcomes is decided by three thresholds: critical success, success, and anything better
than a critical failure. Each of them is one condition on the dice and the target, and moves one way.
-/
import Rollmark.Proofs.Outcome.Hits
import Rollmark.Proofs.Report

namespace Rollmark

section Classification

variable {raw target : Amount}

theorem isCriticalSuccess_iff :
    isCriticalSuccess raw target = true ↔
      raw.val ≤ 4 ∨ (raw.val = 5 ∧ 15 ≤ target.val) ∨ (raw.val = 6 ∧ 16 ≤ target.val) := by
  simp only [isCriticalSuccess, Bool.or_eq_true, Bool.and_eq_true, decide_eq_true_eq, Amount.eq_iff,
    or_assoc]
  rfl

/-- A difference that stops at a limit stands on the same side of ten as the exact one. -/
theorem isCriticalFailure_iff :
    isCriticalFailure raw target = true ↔
      18 ≤ raw.val ∨ (raw.val = 17 ∧ target.val ≤ 15) ∨
        (10 ≤ raw.val - target.val ∧ 0 < target.val) := by
  have hdifference : (10 : Amount) ≤ raw - target ↔ 10 ≤ raw.val - target.val := by
    show 10 ≤ (raw - target).val ↔ _
    rw [Amount.val_sub]
    omega
  simp only [isCriticalFailure, Bool.or_eq_true, Bool.and_eq_true, decide_eq_true_eq, Amount.eq_iff,
    or_assoc, hdifference]
  rfl

/-- No roll is critical both ways. -/
theorem not_isCriticalFailure (h : isCriticalSuccess raw target = true) :
    ¬ isCriticalFailure raw target = true := by
  rw [isCriticalSuccess_iff] at h
  rw [isCriticalFailure_iff]
  omega

/-- The ways in which a roll comes out. -/
theorem classify_cases (raw target : Amount) :
    (isCriticalSuccess raw target = true ∧ classify raw target = .criticalSuccess) ∨
    (¬ isCriticalSuccess raw target = true ∧ isCriticalFailure raw target = true ∧
      classify raw target = .criticalFailure) ∨
    (¬ isCriticalSuccess raw target = true ∧ ¬ isCriticalFailure raw target = true ∧
      raw.val ≤ target.val ∧ classify raw target = .success) ∨
    (¬ isCriticalSuccess raw target = true ∧ ¬ isCriticalFailure raw target = true ∧
      target.val < raw.val ∧ classify raw target = .failure) := by
  unfold classify
  by_cases hsuccess : isCriticalSuccess raw target = true
  · exact .inl ⟨hsuccess, if_pos hsuccess⟩
  · rw [if_neg hsuccess]
    by_cases hfailure : isCriticalFailure raw target = true
    · exact .inr (.inl ⟨hsuccess, hfailure, if_pos hfailure⟩)
    · rw [if_neg hfailure]
      by_cases hmade : raw ≤ target
      · exact .inr (.inr (.inl ⟨hsuccess, hfailure, hmade, if_pos hmade⟩))
      · exact .inr (.inr (.inr ⟨hsuccess, hfailure, Int.not_le.1 hmade, if_neg hmade⟩))

theorem classify_eq_criticalSuccess_iff :
    classify raw target = .criticalSuccess ↔ isCriticalSuccess raw target = true := by
  rcases classify_cases raw target with ⟨hs, h⟩ | ⟨hs, -, h⟩ | ⟨hs, -, -, h⟩ | ⟨hs, -, -, h⟩ <;>
    simp [h, hs]

/-- The condition for a critical success is tested first, and takes nothing from this one. -/
theorem classify_eq_criticalFailure_iff :
    classify raw target = .criticalFailure ↔ isCriticalFailure raw target = true := by
  rcases classify_cases raw target with ⟨hs, h⟩ | ⟨-, hf, h⟩ | ⟨-, hf, -, h⟩ | ⟨-, hf, -, h⟩
  · simp [h, not_isCriticalFailure hs]
  all_goals simp [h, hf]

/-- Dice succeed up to four, and below eighteen when they do not miss the target. -/
theorem isSuccess_classify_iff :
    (classify raw target).isSuccess = true ↔
      raw.val ≤ 4 ∨ (raw.val < 18 ∧ raw.val ≤ target.val) := by
  have hcases := classify_cases raw target
  rw [isCriticalSuccess_iff, isCriticalFailure_iff] at hcases
  rcases hcases with ⟨hs, h⟩ | ⟨hs, hf, h⟩ | ⟨hs, hf, hle, h⟩ | ⟨hs, hf, hlt, h⟩ <;>
    simp only [h, Outcome.isSuccess, Bool.false_eq_true, true_iff, false_iff] <;> omega

/-- Dice that do not miss the target fail from 18 on, and then critically. -/
theorem classify_of_le (h : raw ≤ target) :
    ((classify raw target).isSuccess = true ↔ raw < 18) ∧
      (classify raw target = .criticalFailure ↔ 18 ≤ raw) := by
  have hle : raw.val ≤ target.val := h
  have hlow : raw < 18 ↔ raw.val < 18 := Iff.rfl
  have hhigh : 18 ≤ raw ↔ 18 ≤ raw.val := Iff.rfl
  rw [hlow, hhigh, isSuccess_classify_iff, classify_eq_criticalFailure_iff, isCriticalFailure_iff]
  omega

/-- A plain success has a margin that is not negative, and a plain failure has a negative one. -/
theorem margin_of_classify : (classify raw target = .success → 0 ≤ target - raw) ∧
    (classify raw target = .failure → target - raw < 0) := by
  have hnonneg : 0 ≤ target - raw ↔ 0 ≤ (target - raw).val := Iff.rfl
  have hneg : target - raw < 0 ↔ (target - raw).val < 0 := Iff.rfl
  rw [hnonneg, hneg, Amount.val_sub]
  rcases classify_cases raw target with ⟨-, h⟩ | ⟨-, -, h⟩ | ⟨-, -, hle, h⟩ | ⟨-, -, hlt, h⟩ <;> rw [h]
  · exact ⟨by rintro ⟨⟩, by rintro ⟨⟩⟩
  · exact ⟨by rintro ⟨⟩, by rintro ⟨⟩⟩
  · exact ⟨fun _ => by omega, by rintro ⟨⟩⟩
  · exact ⟨by rintro ⟨⟩, fun _ => by omega⟩

end Classification

/-! ## Better and worse -/

namespace Outcome

/-- How good an outcome is. -/
def rank : Outcome → Nat
  | .criticalFailure => 0
  | .failure => 1
  | .success => 2
  | .criticalSuccess => 3

/-- One outcome is no better than another. -/
instance : LE Outcome := ⟨fun o o' => o.rank ≤ o'.rank⟩

theorem le_iff {o o' : Outcome} : o ≤ o' ↔
    (o = .criticalSuccess → o' = .criticalSuccess) ∧ (o.isSuccess = true → o'.isSuccess = true) ∧
      (o' = .criticalFailure → o = .criticalFailure) := by
  have hrank : o ≤ o' ↔ o.rank ≤ o'.rank := Iff.rfl
  rw [hrank]
  cases o <;> cases o' <;> decide

end Outcome

section Order

variable {raw raw' target target' : Amount}

/-- Higher dice are no better. -/
theorem classify_le_of_raw_le (h : raw ≤ raw') : classify raw' target ≤ classify raw target := by
  have hle : raw.val ≤ raw'.val := h
  rw [Outcome.le_iff]
  simp only [classify_eq_criticalSuccess_iff, isSuccess_classify_iff, classify_eq_criticalFailure_iff,
    isCriticalSuccess_iff, isCriticalFailure_iff]
  refine ⟨?_, ?_, ?_⟩ <;> omega

/-- A higher target is no worse than a positive one. Against a target that is not positive nothing is missed
by ten or more. -/
theorem classify_le_of_target_le (hpos : 0 < target) (h : target ≤ target') :
    classify raw target ≤ classify raw target' := by
  have hzero : 0 < target.val := hpos
  have hle : target.val ≤ target'.val := h
  rw [Outcome.le_iff]
  simp only [classify_eq_criticalSuccess_iff, isSuccess_classify_iff, classify_eq_criticalFailure_iff,
    isCriticalSuccess_iff, isCriticalFailure_iff]
  refine ⟨?_, ?_, ?_⟩ <;> omega

end Order

/-- No roll is critical both ways, so it does not count which of the two conditions is tested first; higher
dice never come out better, and a higher target never worse than a positive one. -/
theorem classify_monotone (raw target : Amount) :
    ¬ (isCriticalSuccess raw target = true ∧ isCriticalFailure raw target = true) ∧
      classify raw target =
        (if isCriticalFailure raw target then .criticalFailure
        else if isCriticalSuccess raw target then .criticalSuccess
        else if raw ≤ target then .success
        else .failure) ∧
      (∀ raw', raw ≤ raw' → classify raw' target ≤ classify raw target) ∧
      ∀ target', 0 < target → target ≤ target' → classify raw target ≤ classify raw target' := by
  refine ⟨fun h => not_isCriticalFailure h.1 h.2, ?_, fun raw' => classify_le_of_raw_le,
    fun target' => classify_le_of_target_le⟩
  by_cases hfailure : isCriticalFailure raw target = true
  · rw [if_pos hfailure, classify_eq_criticalFailure_iff.2 hfailure]
  · rw [if_neg hfailure, classify, if_neg hfailure]

/-- Sixteen and seventeen against 15, and seventeen against 15 and 16; four and five against 14, five against
14 and 15, and six against 15 and 16. -/
theorem classify_monotone_seventeen :
    ((16 : Amount) ≤ 17 ∧ (0 : Amount) < 15 ∧ (15 : Amount) ≤ 16 ∧
      classify 17 15 = .criticalFailure ∧ classify 16 15 = .failure ∧ classify 17 16 = .failure ∧
      classify 17 15 ≤ classify 16 15 ∧ classify 17 15 ≤ classify 17 16) ∧
    (4 : Amount) ≤ 5 ∧ (0 : Amount) < 14 ∧ (14 : Amount) ≤ 15 ∧
      classify 4 14 = .criticalSuccess ∧ classify 5 14 = .success ∧ classify 5 15 = .criticalSuccess ∧
      classify 6 15 = .success ∧ classify 6 16 = .criticalSuccess ∧
      classify 5 14 ≤ classify 4 14 ∧ classify 5 14 ≤ classify 5 15 ∧ classify 6 15 ≤ classify 6 16 := by
  have hraw : (16 : Amount) ≤ 17 := by decide
  have hpos : (0 : Amount) < 15 := by decide
  have htarget : (15 : Amount) ≤ 16 := by decide
  have hraw' : (4 : Amount) ≤ 5 := by decide
  have hpos' : (0 : Amount) < 14 := by decide
  have htarget' : (14 : Amount) ≤ 15 := by decide
  constructor
  · exact ⟨hraw, hpos, htarget, by decide, by decide, by decide,
      (classify_monotone 16 15).2.2.1 17 hraw, (classify_monotone 17 15).2.2.2 16 hpos htarget⟩
  · exact ⟨hraw', hpos', htarget', by decide, by decide, by decide, by decide, by decide,
      (classify_monotone 4 14).2.2.1 5 hraw', (classify_monotone 5 14).2.2.2 15 hpos' htarget',
      (classify_monotone 6 15).2.2.2 16 hpos htarget⟩

/-! ## Hits -/

/-- Hits are reported only for a positive margin. -/
theorem margin_pos_of_extraHits {margin hits : Amount} {rcl rof : Option Amount}
    (h : extraHits margin rcl rof = some hits) : 0 < margin :=
  (extraHits_eq_some.1 h).1

/-- When hits are reported the dice were below the target. The roll is a success unless they came to
18 or more, which fails critically against every target. -/
theorem isSuccess_iff_of_extraHits {request : RollRequest} {bucket bucket' : Bucket} {dice dice' : Dice}
    {report : Report} {hits : Amount}
    (h : resolve request bucket dice = (.ok report, bucket', dice'))
    (hhits : report.outcome.extraHits = some hits) :
    ∃ final result, report.outcome.target = some final ∧ report.outcome.result = some result ∧
      report.outcome.total < final ∧ (result.isSuccess = true ↔ report.outcome.total < 18) ∧
      (result = .criticalFailure ↔ 18 ≤ report.outcome.total) := by
  obtain ⟨formula, -, -, hrolled⟩ := resolve_ok h
  have hreport := congrArg Prod.fst hrolled
  dsimp only at hreport
  rcases request.rolled_cases formula (request.oneShot ++ bucket.entries) dice with ⟨target, hcase⟩ | hcase
  · rw [hcase] at hreport
    subst hreport
    have hbelow := Amount.lt_of_sub_pos (margin_pos_of_extraHits hhits)
    exact ⟨_, _, rfl, rfl, hbelow, classify_of_le hbelow.le⟩
  · rw [hcase] at hreport
    subst hreport
    cases hhits

/-- A margin of four with a recoil of two. -/
theorem isSuccess_iff_of_extraHits_crossbow :
    ∃ report bucket dice,
      resolve { RollRequest.check 14 "Crossbow" with rof := some 3, rcl := some 2 } .empty
        (.ofFaces [3, 3, 4]) = (.ok report, bucket, dice) ∧
      report.outcome.extraHits = some 3 ∧
      ∃ final result, report.outcome.target = some final ∧ report.outcome.result = some result ∧
        report.outcome.total < final ∧ (result.isSuccess = true ↔ report.outcome.total < 18) ∧
        (result = .criticalFailure ↔ 18 ≤ report.outcome.total) := by
  have hrolled : ∃ report bucket dice,
      resolve { RollRequest.check 14 "Crossbow" with rof := some 3, rcl := some 2 } .empty
        (.ofFaces [3, 3, 4]) = (.ok report, bucket, dice) ∧ report.outcome.extraHits = some 3 :=
    ⟨_, _, _, rfl, rfl⟩
  obtain ⟨report, bucket, dice, hreport, hhits⟩ := hrolled
  exact ⟨report, bucket, dice, hreport, hhits, isSuccess_iff_of_extraHits hreport hhits⟩

/-- Three sixes against a target of 20. -/
theorem extraHits_of_criticalFailure :
    let request := { RollRequest.check 20 "Crossbow" with rof := some 3, rcl := some 1 }
    ∃ report, (resolve request .empty (.ofFaces [6, 6, 6])).1 = .ok report ∧
      report.outcome.extraHits = some 3 ∧ report.outcome.result = some .criticalFailure :=
  ⟨_, rfl, rfl, rfl⟩

end Rollmark
