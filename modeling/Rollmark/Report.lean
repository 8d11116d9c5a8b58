/-
Reports of rolls. A roll takes all modifiers out of the bucket, rolls its dice once, and says how
that came out; a formula that cannot be rolled leaves bucket and dice alone.
-/
import Rollmark.Intent
import Rollmark.Outcome

namespace Rollmark

/-- How a roll came out; only a check has a target, a margin and a result. -/
structure RollOutcome where
  total : Amount
  target : Option Amount
  margin : Option Amount
  isCriticalSuccess : Bool
  isCriticalFailure : Bool
  extraHits : Option Amount
  result : Option Outcome
deriving DecidableEq

/-- The report of a roll. -/
structure Report where
  label : String
  outcome : RollOutcome
  faces : List Nat
  /-- All modifiers that counted, the one-shot ones first. -/
  modifiers : List Modifier
  text : String
  visibility : Visibility
  /-- The fatigue that the modifiers cost. -/
  fatigueCost : Amount
deriving DecidableEq

/-! ## JSON -/

/-- An optional amount as JSON. -/
def Amount.optionJson (a : Option Amount) : Json := .ofOption (.integer ·.val) a

def RollOutcome.toJson (o : RollOutcome) : Json :=
  .object [("total", .integer o.total.val), ("target", Amount.optionJson o.target),
    ("margin", Amount.optionJson o.margin), ("is_critical_success", .bool o.isCriticalSuccess),
    ("is_critical_failure", .bool o.isCriticalFailure),
    ("extra_hits", Amount.optionJson o.extraHits),
    ("result", .ofOption (fun r => .string r.text) o.result)]

def Report.toJson (r : Report) : Json :=
  .object [("label", .string r.label), ("outcome", r.outcome.toJson),
    ("faces", .array (r.faces.map Json.natural)),
    ("modifiers", .array (r.modifiers.map Modifier.toJson)), ("text", .string r.text),
    ("visibility", .string r.visibility.text), ("fatigue_cost", .integer r.fatigueCost.val)]

/-! ## What modifiers ask for -/

/-- The least cap on the target that a modifier sets. -/
def cap? (modifiers : List Modifier) : Option Amount :=
  (modifiers.filterMap fun m => m.directive.maxTarget).min?

/-- The sum of the fatigue costs. -/
def fatigueCost (modifiers : List Modifier) : Amount :=
  Amount.sum (modifiers.filterMap fun m => m.directive.fatigueCost)

/-- The target after modifiers and caps. -/
def finalTarget (target : Amount) (modifiers : List Modifier) : Amount :=
  let modified := target + Modifier.total modifiers
  match cap? modifiers with
  | some cap => min modified cap
  | none => modified

/-! ## Text -/

/-- A line for each modifier. -/
def modifierLines (modifiers : List Modifier) : List String :=
  modifiers.map fun m => "  " ++ m.text

/-- A label in the singular: every `points` becomes `point`. -/
def singular : List Char → List Char
  | 'p' :: 'o' :: 'i' :: 'n' :: 't' :: 's' :: rest =>
    'p' :: 'o' :: 'i' :: 'n' :: 't' :: singular rest
  | c :: rest => c :: singular rest
  | [] => []

/-- The text of a check. -/
def checkText (request : RollRequest) (target : Amount) (modifiers : List Modifier)
    (final raw margin : Amount) (result : Outcome) (hits : Option Amount) : String :=
  "\n".intercalate
    ([request.label ++ " (" ++ target.text ++ ")"]
      ++ (match request.note with
        | some note => ["(" ++ note ++ ")"]
        | none => [])
      ++ (if modifiers.isEmpty then []
        else modifierLines modifiers ++ ["New Target: (" ++ final.text ++ ")"])
      ++ ["Rolled " ++ raw.text ++ " -> " ++ result.label ++ " " ++ marginText margin]
      ++ (match hits with
        | some h => ["Total possible hits due to RoF/Rcl: " ++ h.text]
        | none => []))

/-- The text of a roll without a target. -/
def openText (request : RollRequest) (modifiers : List Modifier) (roll : Formula.Roll) : String :=
  let label :=
    if roll.total = 1 then String.ofList (singular request.label.toList) else request.label
  "\n".intercalate
    ([label] ++ modifierLines modifiers
      ++ ["Rolled " ++ roll.total.text ++ " " ++ Dice.facesText roll.faces])

/-! ## Rolling -/

/-- Rolls a check against a positive target. -/
def rollCheck (request : RollRequest) (target : Amount) (formula : Formula)
    (modifiers : List Modifier) (dice : Dice) : Report × Dice :=
  let (roll, dice') := formula.roll 0 dice
  let final := finalTarget target modifiers
  let result := classify roll.total final
  let margin := final - roll.total
  let hits := extraHits margin request.rcl request.rof
  (⟨request.label,
    ⟨roll.total, some final, some margin, result = .criticalSuccess, result = .criticalFailure,
      hits, some result⟩,
    roll.faces, modifiers, checkText request target modifiers final roll.total margin result hits,
    request.visibility, fatigueCost modifiers⟩, dice')

/-- Rolls without a target; the modifiers change the total. -/
def rollOpen (request : RollRequest) (formula : Formula) (modifiers : List Modifier)
    (dice : Dice) : Report × Dice :=
  let (roll, dice') := formula.roll (Modifier.total modifiers) dice
  (⟨request.label, ⟨roll.total, none, none, false, false, none, none⟩, roll.faces, modifiers,
    openText request modifiers roll, request.visibility, fatigueCost modifiers⟩, dice')

/-- Rolls what is requested with everything that is in the bucket. -/
def resolve (request : RollRequest) (bucket : Bucket) (dice : Dice) :
    Except Error Report × Bucket × Dice :=
  match Formula.ofText request.formula with
  | .error e => (.error e, bucket, dice)
  | .ok formula =>
    let (modifiers, bucket') := bucket.drain request.oneShot
    let (report, dice') :=
      match request.target with
      | some target =>
        if 0 < target then rollCheck request target formula modifiers dice
        else rollOpen request formula modifiers dice
      | none => rollOpen request formula modifiers dice
    (.ok report, bucket', dice')

end Rollmark
