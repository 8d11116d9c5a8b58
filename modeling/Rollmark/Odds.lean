/-
Odds of success rolls, found by rolling: for every target in a range a number of trials, each with
three dice, and the share of successes and of both kinds of critical results in per cent.
-/
import Rollmark.Dice
import Rollmark.Double
import Rollmark.Json.Printer
import Rollmark.Outcome

namespace Rollmark.Odds

/-! ## Trials -/

/-- How often trials came out as a success of any kind, and as either critical result. -/
structure Tally where
  successes : Nat
  criticalSuccesses : Nat
  criticalFailures : Nat
deriving DecidableEq

/-- The tally with one more outcome. -/
def Tally.count (t : Tally) (o : Outcome) : Tally :=
  ⟨if o.isSuccess then t.successes + 1 else t.successes,
    if o = .criticalSuccess then t.criticalSuccesses + 1 else t.criticalSuccesses,
    if o = .criticalFailure then t.criticalFailures + 1 else t.criticalFailures⟩

/-- Adds so many trials against a target to a tally. -/
def rollTrials (target : Amount) : Nat → Tally → Dice → Tally × Dice
  | 0, tally, dice => (tally, dice)
  | trials + 1, tally, dice =>
    let (raw, dice') := dice.threeD6
    rollTrials target trials (tally.count (classify raw target)) dice'

/-- The tally of so many trials against a target. -/
def sweep (target : Amount) (trials : Nat) (seed : UInt64) : Tally :=
  (rollTrials target trials ⟨0, 0, 0⟩ (.ofSeed seed)).1

/-! ## Rows -/

/-- The shares for one target in per cent. -/
structure Row where
  target : Amount
  success : Double
  criticalSuccess : Double
  criticalFailure : Double
deriving DecidableEq

/-- The share of a count in per cent; of no trials it is zero. -/
def percent (count trials : Nat) : Double := .ofQuotient (100 * count) (max trials 1)

/-- The row of a tally. -/
def Tally.row (t : Tally) (target : Amount) (trials : Nat) : Row :=
  ⟨target, percent t.successes trials, percent t.criticalSuccesses trials,
    percent t.criticalFailures trials⟩

/-- What to sweep: the trials for each target, a seed, and the least and the greatest target. -/
structure Request where
  trials : Nat
  seed : UInt64
  least : Amount
  greatest : Amount
  /-- Rows as JSON and not as a table. -/
  asJson : Bool
deriving DecidableEq

/-- The seed of a target: the seed of the sweep and the target, around the end of the words. -/
def targetSeed (seed : UInt64) (target : Amount) : UInt64 := seed + UInt64.ofInt target.val

/-- The targets from the least to the greatest. -/
def Request.targets (r : Request) : List Amount :=
  (List.range (r.greatest.val - r.least.val + 1).toNat).map fun (i : Nat) =>
    .clamp (r.least.val + i)

/-- A row for every target. -/
def Request.rows (r : Request) : List Row :=
  r.targets.map fun target =>
    (sweep target r.trials (targetSeed r.seed target)).row target r.trials

/-! ## Written form -/

def Row.toJson (r : Row) : Json :=
  .object [("target", .integer r.target.val), ("success", r.success.toJson),
    ("critical_success", r.criticalSuccess.toJson), ("critical_failure", r.criticalFailure.toJson)]

/-- A text moved to the right end of a column. -/
def column (width : Nat) (text : String) : String :=
  String.ofList (List.replicate (width - text.length) ' ') ++ text

/-- The line over a table. -/
def heading : String := "target  success%  crit%  critfail%"

/-- The line of a row in a table. -/
def Row.line (r : Row) : String :=
  column 6 r.target.text ++ "  " ++ column 8 r.success.tenthsText ++ "  "
    ++ column 5 r.criticalSuccess.tenthsText ++ "  " ++ column 9 r.criticalFailure.tenthsText

/-- The lines that show rows. -/
def Request.lines (r : Request) : List String :=
  if r.asJson then [(Json.array (r.rows.map Row.toJson)).pretty]
  else heading :: r.rows.map Row.line

end Rollmark.Odds
