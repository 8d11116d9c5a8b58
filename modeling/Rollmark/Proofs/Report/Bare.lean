/-
Rolls beside bare ones: with modifiers or without any, a roll shows the same faces and leaves the same dice.
Against a positive target the modifiers move the target and leave the total alone. Without one they move the
total, and their descriptions, caps included, have no part in how the roll comes out.
-/
import Rollmark.Proofs.Formula.Total
import Rollmark.Proofs.Outcome
import Rollmark.Proofs.Report.Caps

namespace Rollmark

/-! ## Outcomes of the two kinds of rolls -/

namespace RollOutcome

/-- What a check reports against this final target when it comes out like this. -/
structure OfCheck (o : RollOutcome) (final : Amount) (out : Outcome) : Prop where
  target : o.target = some final
  margin : o.margin = some (final - o.total)
  result : o.result = some out
  classified : out = classify o.total final
  success : out = .success → 0 ≤ final - o.total
  failure : out = .failure → final - o.total < 0
  criticalSuccess : o.isCriticalSuccess = true ↔ out = .criticalSuccess
  criticalFailure : o.isCriticalFailure = true ↔ out = .criticalFailure

/-- The outcome of a roll without a target is its total and nothing else. -/
def ofTotal (total : Amount) : RollOutcome := ⟨total, none, none, false, false, none, none⟩

end RollOutcome

namespace RollRequest

variable (request : RollRequest) (formula : Formula) (modifiers : List Modifier) (dice : Dice)

theorem ofCheck_rolled {target : Amount} (htarget : request.target = some target) (hpos : 0 < target) :
    let final := finalTarget target modifiers
    let o := (request.rolled formula modifiers dice).1.outcome
    o.OfCheck final (classify o.total final) := by
  rw [request.rolled_of_pos formula modifiers dice htarget hpos]
  exact ⟨rfl, rfl, rfl, rfl, margin_of_classify.1, margin_of_classify.2, decide_eq_true_iff,
    decide_eq_true_iff⟩

/-- Without a positive target only the amounts of the modifiers count, and they are added to the product. -/
theorem outcome_rolled (h : ∀ target, request.target = some target → ¬ 0 < target) :
    (request.rolled formula modifiers dice).1.outcome =
      .ofTotal (formula.raised (formula.product (request.rolled formula modifiers dice).1.faces +
        Modifier.total modifiers)) := by
  rw [request.rolled_of_not_pos formula modifiers dice h]
  rfl

/-- Two rolls of one formula show the same faces and leave the same dice, whatever counts for them. -/
theorem rolled_same_faces (request' : RollRequest) (modifiers' : List Modifier) :
    (request.rolled formula modifiers dice).1.faces = (request'.rolled formula modifiers' dice).1.faces ∧
      (request.rolled formula modifiers dice).2 = (request'.rolled formula modifiers' dice).2 := by
  have hsame := (request.rolled_faces formula modifiers dice).trans
    (request'.rolled_faces formula modifiers' dice).symm
  exact Prod.mk.inj hsame

/-- Without a positive target the same amounts come out the same, whatever they are for. -/
theorem outcome_rolled_congr (h : ∀ target, request.target = some target → ¬ 0 < target)
    {modifiers' : List Modifier} (hamounts : modifiers'.map (·.amount) = modifiers.map (·.amount))
    (oneShot : List Modifier) :
    (({ request with oneShot := oneShot } : RollRequest).rolled formula modifiers' dice).1.outcome =
      (request.rolled formula modifiers dice).1.outcome := by
  let renamed : RollRequest := { request with oneShot := oneShot }
  have hrenamed := renamed.outcome_rolled formula modifiers' dice h
  have htotal : Modifier.total modifiers' = Modifier.total modifiers := congrArg Amount.sum hamounts
  obtain ⟨hfaces, -⟩ := renamed.rolled_same_faces formula modifiers' dice request modifiers
  rw [htotal, hfaces, ← request.outcome_rolled formula modifiers dice h] at hrenamed
  exact hrenamed

end RollRequest

/-! ## Bare rolls -/

/-- A roll beside the same roll without modifiers. It empties the bucket and counts the one-shot modifiers and
then the entries of the bucket, in their order. Faces and dice are those of the bare roll. Against a positive
target the total is that of the bare roll as well, and the final target is where the modifiers move the
target, or the least of their caps when that is lower. Without a positive target there is only a total: the
modifiers are added once, behind the multiplier and before the total is raised, and with any other
descriptions of the same amounts it comes out the same. -/
theorem resolve_beside_bare {request : RollRequest} {bucket bucket' : Bucket} {dice dice' : Dice}
    {report : Report} (h : resolve request bucket dice = (.ok report, bucket', dice')) :
    let modifiers := request.oneShot ++ bucket.entries
    bucket'.entries = [] ∧ bucket'.sum = 0 ∧ report.modifiers = modifiers ∧
    ∃ formula bare, Formula.read? request.formula = some formula ∧
      resolve { request with oneShot := [] } .empty dice = (.ok bare, .empty, dice') ∧
      report.faces = bare.faces ∧
      (∀ target, request.target = some target → 0 < target →
        let moved := target + Modifier.total modifiers
        report.outcome.total = bare.outcome.total ∧
        ∃ final out, report.outcome.OfCheck final out ∧
          (∀ m ∈ modifiers, ∀ cap, m.Caps cap → final ≤ cap) ∧ final ≤ moved ∧
          (final = moved ∨ ∃ m ∈ modifiers, m.Caps final)) ∧
      ((∀ target, request.target = some target → ¬ 0 < target) →
        let plain := formula.product report.faces
        report.outcome = .ofTotal (formula.raised (plain + Modifier.total modifiers)) ∧
        bare.outcome = .ofTotal (formula.raised plain) ∧
        ∀ (oneShot : List Modifier) (other : Bucket),
          (oneShot ++ other.entries).map (·.amount) = modifiers.map (·.amount) →
            ∃ report', (resolve { request with oneShot := oneShot } other dice).1 = .ok report' ∧
              report'.outcome = report.outcome) := by
  intro modifiers
  obtain ⟨formula, hread, rfl, hrolled⟩ := resolve_ok h
  have hreport : report = (request.rolled formula modifiers dice).1 := congrArg Prod.fst hrolled
  have hdice' : dice' = (request.rolled formula modifiers dice).2 := congrArg Prod.snd hrolled
  let bare : RollRequest := { request with oneShot := [] }
  obtain ⟨hfaces, hdice⟩ := request.rolled_same_faces formula modifiers dice bare []
  have hreadBare : Formula.read? bare.formula = some formula := hread
  have hbare : resolve bare .empty dice = (.ok (bare.rolled formula [] dice).1, .empty, dice') := by
    rw [hdice', hdice]
    exact resolve_of_read hreadBare .empty dice
  subst hreport
  refine ⟨rfl, rfl, request.rolled_modifiers formula modifiers dice, formula, _, hread, hbare, hfaces, ?_, ?_⟩
  · intro target htarget hpos moved
    refine ⟨?_, _, _, request.ofCheck_rolled formula modifiers dice htarget hpos,
      finalTarget_least target modifiers⟩
    rw [request.rolled_of_pos formula modifiers dice htarget hpos,
      bare.rolled_of_pos formula [] dice htarget hpos]
    rfl
  · intro hopen plain
    have hcame := request.outcome_rolled formula modifiers dice hopen
    have hbareCame := bare.outcome_rolled formula [] dice hopen
    rw [← hfaces, Modifier.total_nil, Amount.add_zero] at hbareCame
    refine ⟨hcame, hbareCame, fun oneShot other hamounts => ?_⟩
    let renamed : RollRequest := { request with oneShot := oneShot }
    have hreadRenamed : Formula.read? renamed.formula = some formula := hread
    exact ⟨_, congrArg Prod.fst (resolve_of_read hreadRenamed other dice),
      request.outcome_rolled_congr formula modifiers dice hopen hamounts oneShot⟩

/-- A cap of nine on a check with a typed modifier, and on dice without a target. -/
theorem resolve_beside_bare_charge :
    let aim : Modifier := ⟨1, "aim"⟩
    let charge : Modifier := ⟨4, "to hit (Charge Attack) *Max:9"⟩
    let check : RollRequest := { RollRequest.check 12 "Broadsword" with oneShot := [aim] }
    let damage : RollRequest := .ofFormula "2d-9x3!" "Rolling 2d-9x3!"
    let dice := Dice.ofFaces [3, 5]
    (∃ report bucket dice', resolve check (.ofEntries [charge]) dice = (.ok report, bucket, dice') ∧
      bucket.entries = [] ∧ report.modifiers = [aim, charge] ∧
      ∃ final out, report.outcome.OfCheck final out ∧ final ≤ 9) ∧
    ∃ report bucket dice', resolve damage (.ofEntries [charge]) dice = (.ok report, bucket, dice') ∧
      ∃ formula, Formula.read? damage.formula = some formula ∧
        report.outcome = .ofTotal (formula.raised (formula.product report.faces + 4)) := by
  intro aim charge check damage dice
  constructor
  · have hread : Formula.read? check.formula = some ⟨3, 6, 0, none, none, false⟩ := by decide
    have hresolve := resolve_of_read hread (.ofEntries [charge]) dice
    obtain ⟨hempty, -, hmodifiers, formula, bare, -, -, -, hcheck, -⟩ := resolve_beside_bare hresolve
    obtain ⟨-, final, out, hout, hcaps, -, -⟩ := hcheck 12 rfl (by decide)
    have hcharge : charge.Caps 9 := Modifier.maxTarget_eq_some.1 (by decide)
    exact ⟨_, _, _, hresolve, hempty, hmodifiers, final, out, hout,
      hcaps charge (List.mem_cons_of_mem aim List.mem_cons_self) 9 hcharge⟩
  · have hread : Formula.read? damage.formula = some ⟨2, 6, .clamp (-9), some 3, none, true⟩ := by decide
    have hresolve := resolve_of_read hread (.ofEntries [charge]) dice
    obtain ⟨-, -, -, formula, bare, hformula, -, -, -, hopen⟩ := resolve_beside_bare hresolve
    have hnone : ∀ target, damage.target = some target → ¬ 0 < target := by rintro target ⟨⟩
    exact ⟨_, _, _, hresolve, formula, hformula, (hopen hnone).1⟩

end Rollmark
