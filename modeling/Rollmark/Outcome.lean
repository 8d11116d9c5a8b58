/-
Outcomes of success rolls: the three dice are compared with the final target, and the margin tells
how far they are apart.
-/
import Rollmark.Amount

namespace Rollmark

/-- How a success roll came out. -/
inductive Outcome where
  | criticalSuccess
  | success
  | failure
  | criticalFailure
deriving DecidableEq

namespace Outcome

/-- What a report says. -/
def label : Outcome → String
  | .criticalSuccess => "Critical Success!"
  | .success => "Success!"
  | .failure => "Failure."
  | .criticalFailure => "Critical Failure!"

/-- The word on the wire. -/
def text : Outcome → String
  | .criticalSuccess => "CriticalSuccess"
  | .success => "Success"
  | .failure => "Failure"
  | .criticalFailure => "CriticalFailure"

def isSuccess : Outcome → Bool
  | .criticalSuccess | .success => true
  | .failure | .criticalFailure => false

end Outcome

/-- Three and four always succeed critically, five from a target of 15 on and six from 16 on. -/
def isCriticalSuccess (raw target : Amount) : Bool :=
  raw ≤ 4 || (raw = 5 && 15 ≤ target) || (raw = 6 && 16 ≤ target)

/-- Eighteen always fails critically, seventeen up to a target of 15, and any roll that misses a
positive target by ten or more. -/
def isCriticalFailure (raw target : Amount) : Bool :=
  18 ≤ raw || (raw = 17 && target ≤ 15) || (10 ≤ raw - target && 0 < target)

/-- How a roll comes out against a final target. -/
def classify (raw target : Amount) : Outcome :=
  if isCriticalSuccess raw target then .criticalSuccess
  else if isCriticalFailure raw target then .criticalFailure
  else if raw ≤ target then .success
  else .failure

/-- Hits of rapid fire: one, and one more for every full recoil in the margin, up to the rate of
fire. They are counted from the second one on. -/
def extraHits (margin : Amount) (rcl rof : Option Amount) : Option Amount :=
  match rcl with
  | none => none
  | some recoil =>
    if 0 < margin && 0 < recoil then
      let steps := Amount.clamp (margin.val / recoil.val) + 1
      let hits := match rof with
        | some rate => if 0 < rate then min steps rate else steps
        | none => steps
      if 1 < hits then some hits else none
    else none

/-- A margin in words. -/
def marginText (margin : Amount) : String :=
  if margin = 0 then "just made it"
  else if 0 < margin then "made it by " ++ margin.text
  else "missed it by " ++ String.ofList (Text.digits margin.val.natAbs)

end Rollmark
