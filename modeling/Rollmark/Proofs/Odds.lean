/-
Odds: what the sweep counts are checks as they are played. A check with an empty bucket reads its formula,
rolls its dice and classifies their total; a trial only sums three dice and classifies that sum. Both come
to the same total and the same result and leave the same dice, so that they stay in step for as long as
they are repeated.
-/
import Rollmark.Odds
import Rollmark.Proofs.Formula.Total
import Rollmark.Proofs.Report

namespace Rollmark

/-! ## Three dice -/

namespace Formula

/-- Three dice and nothing else. -/
def threeDice : Formula := ⟨3, 6, 0, none, none, false⟩

theorem read?_threeDice : read? "3d6" = some threeDice := by decide

theorem total_threeDice (faces : List Nat) : threeDice.total faces 0 = Amount.clamp (faces.sum : Nat) := by
  have hraised : ∀ plain, threeDice.raised plain = plain := fun _ => rfl
  have hproduct : threeDice.product faces =
      (Amount.sum (faces.map fun (face : Nat) => Amount.clamp face) + 0) * 1 := rfl
  rw [total_eq, hraised, hproduct, Amount.add_zero, Amount.add_zero, Amount.mul_one, Amount.sum_clamp]

/-- Three dice come to the same total and leave the same dice when they are rolled directly. -/
theorem roll_threeDice (dice : Dice) :
    (threeDice.roll 0 dice).1.total = dice.threeD6.1 ∧ (threeDice.roll 0 dice).2 = dice.threeD6.2 := by
  have hroll : (threeDice.roll 0 dice).1.total = threeDice.total (dice.rollMany 6 3).1 0 := rfl
  refine ⟨?_, rfl⟩
  rw [hroll, total_threeDice, List.sum_eq_foldl]
  rfl

end Formula

/-! ## One check -/

theorem finalTarget_nil (target : Amount) : finalTarget target [] = target := Amount.add_zero target

/-- A check without modifiers rolls three dice and compares them with its own target. -/
theorem resolve_check {target : Amount} (h : 0 < target) (label : String) (dice : Dice) :
    ∃ report, resolve (.check target label) .empty dice = (.ok report, .empty, dice.threeD6.2) ∧
      report.outcome.total = dice.threeD6.1 ∧
      report.outcome.result = some (classify dice.threeD6.1 target) := by
  let request := RollRequest.check target label
  have hread : Formula.read? request.formula = some .threeDice := Formula.read?_threeDice
  have hresolve : resolve request .empty dice = (.ok (request.rolled .threeDice [] dice).1, .empty,
      (request.rolled .threeDice [] dice).2) := resolve_of_read hread .empty dice
  have hrolled : request.rolled .threeDice [] dice = rollCheck request target .threeDice [] dice :=
    request.rolled_of_pos .threeDice [] dice rfl h
  obtain ⟨htotal, hdice⟩ := Formula.roll_threeDice dice
  have hleft : (rollCheck request target .threeDice [] dice).2 = dice.threeD6.2 := hdice
  rw [hrolled, hleft] at hresolve
  refine ⟨_, hresolve, htotal, ?_⟩
  show some (classify (Formula.threeDice.roll 0 dice).1.total (finalTarget target [])) = _
  rw [htotal, finalTarget_nil]

namespace Odds

/-! ## Tallies -/

/-- How often some reports say success of any kind, and either critical result. -/
def Tally.ofReports (reports : List Report) : Tally :=
  ⟨reports.countP fun r => r.outcome.result.any Outcome.isSuccess,
    reports.countP fun r => r.outcome.result = some .criticalSuccess,
    reports.countP fun r => r.outcome.result = some .criticalFailure⟩

/-- Two tallies together. -/
def Tally.plus (t u : Tally) : Tally :=
  ⟨t.successes + u.successes, t.criticalSuccesses + u.criticalSuccesses,
    t.criticalFailures + u.criticalFailures⟩

/-- A result is counted before the reports or with them. -/
theorem Tally.count_plus_ofReports {report : Report} {result : Outcome}
    (h : report.outcome.result = some result) (t : Tally) (reports : List Report) :
    (t.count result).plus (.ofReports reports) = t.plus (.ofReports (report :: reports)) := by
  cases result <;> simp [plus, count, ofReports, Outcome.isSuccess, h] <;> omega

/-! ## Checks in a row -/

/-- Makes a roll so many times in a row, each time with the bucket and the dice that the last one left. -/
def playAll (request : RollRequest) : Nat → Bucket → Dice → List (Except Error Report) × Bucket × Dice
  | 0, bucket, dice => ([], bucket, dice)
  | times + 1, bucket, dice =>
    let (resolved, bucket', dice') := resolve request bucket dice
    let (more, bucket'', dice'') := playAll request times bucket' dice'
    (resolved :: more, bucket'', dice'')

theorem playAll_succ {request : RollRequest} {bucket bucket' : Bucket} {dice dice' : Dice}
    {resolved : Except Error Report} (h : resolve request bucket dice = (resolved, bucket', dice'))
    (times : Nat) : playAll request (times + 1) bucket dice =
      (resolved :: (playAll request times bucket' dice').1, (playAll request times bucket' dice').2) := by
  rw [playAll, h]

/-- Trials and checks stay in step: they leave the same dice, and what the trials add to a tally is what the
reports of the checks say. -/
theorem playAll_check {target : Amount} (h : 0 < target) (label : String) (times : Nat) (tally : Tally)
    (dice : Dice) : ∃ (reports : List Report) (dice' : Dice),
      playAll (.check target label) times .empty dice = (reports.map .ok, .empty, dice') ∧
      reports.length = times ∧
      rollTrials target times tally dice = (tally.plus (.ofReports reports), dice') := by
  induction times generalizing tally dice with
  | zero => exact ⟨[], dice, rfl, rfl, rfl⟩
  | succ times ih =>
    obtain ⟨report, hresolve, -, hresult⟩ := resolve_check h label dice
    -- both go on from the dice that three dice leave, the trials with one more result in their tally
    obtain ⟨reports, dice', hplay, hlength, htrials⟩ :=
      ih (tally.count (classify dice.threeD6.1 target)) dice.threeD6.2
    refine ⟨report :: reports, dice', ?_, ?_, ?_⟩
    · rw [playAll_succ hresolve, hplay]
      rfl
    · rw [List.length_cons, hlength]
    · rw [Tally.count_plus_ofReports hresult] at htrials
      exact htrials

/-- The sweep measures what is played. Whatever the dice are, a check with an empty bucket against a positive
target succeeds, its total is what three dice show, its result is how they are classified, and it leaves the
dice as they do. Hence the tally of a sweep has the successes and the critical results of so many checks in a
row with the dice of its seed. -/
theorem sweep_eq_ofReports {target : Amount} (h : 0 < target) (label : String) :
    (∀ dice : Dice, ∃ report, resolve (.check target label) .empty dice = (.ok report, .empty, dice.threeD6.2) ∧
      report.outcome.total = dice.threeD6.1 ∧
      report.outcome.result = some (classify dice.threeD6.1 target)) ∧
    ∀ (trials : Nat) (seed : UInt64), ∃ reports : List Report,
      (playAll (.check target label) trials .empty (.ofSeed seed)).1 = reports.map .ok ∧
      reports.length = trials ∧ sweep target trials seed = .ofReports reports := by
  refine ⟨fun dice => resolve_check h label dice, fun trials seed => ?_⟩
  obtain ⟨reports, dice', hplay, hlength, htrials⟩ :=
    playAll_check h label trials ⟨0, 0, 0⟩ (.ofSeed seed)
  refine ⟨reports, by rw [hplay], hlength, ?_⟩
  rw [sweep, htrials]
  simp [Tally.plus]

/-- Seventeen just misses a target of sixteen and is no critical failure there; and a sweep against it. -/
theorem sweep_eq_ofReports_seventeen :
    (0 : Amount) < 16 ∧
    (∃ report, resolve (.check 16 "Broadsword") .empty (.ofFaces [6, 5]) =
        (.ok report, .empty, .scripted [6, 5] 3) ∧
      report.outcome.total = 17 ∧ report.outcome.result = some .failure) ∧
    ∃ reports : List Report,
      (playAll (.check 16 "Broadsword") 10000 .empty (.ofSeed 12361)).1 = reports.map .ok ∧
      reports.length = 10000 ∧ sweep 16 10000 12361 = .ofReports reports := by
  have hpositive : (0 : Amount) < 16 := by decide
  obtain ⟨hcheck, hsweep⟩ := sweep_eq_ofReports hpositive "Broadsword"
  exact ⟨hpositive, hcheck (.ofFaces [6, 5]), hsweep 10000 12361⟩

end Odds

end Rollmark
