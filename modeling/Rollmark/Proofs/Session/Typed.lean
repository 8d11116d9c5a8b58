/-
Typed modifiers: a modifier that is typed into the span of a check does to the roll what it would have
done in the bucket.

In the span it is the first of the modifiers that count, and out of the bucket it is the last one, so the
two rolls count the same modifiers in different orders. Costs and caps do not depend on the order, and
totals do not as long as the amounts together are within the limits.
-/
import Rollmark.Proofs.Bucket.Merge
import Rollmark.Proofs.Intent
import Rollmark.Proofs.Report.Order
import Rollmark.Proofs.Session.Effect

namespace Rollmark

/-! ## Actions without their typed modifier -/

/-- A check without the modifier that was typed into its span, and without its description. -/
def Action.Kind.untyped : Action.Kind → Action.Kind
  | .attributeCheck name path _ _ target => .attributeCheck name path none "" target
  | .skill name _ _ => .skill name none ""
  | .attack name _ _ => .attack name none ""
  | kind => kind

def Action.untyped (a : Action) : Action := { a with kind := a.kind.untyped }

namespace Intent

/-- A check whose requests lose their one-shot modifiers rolls the same, without them. -/
theorem check_bare {target : Option Amount} {make make' : Amount → RollRequest} {request : RollRequest}
    (h : check target make = .roll request) (hmake : ∀ t, make' t = { make t with oneShot := [] }) :
    check target make' = .roll { request with oneShot := [] } := by
  obtain ⟨t, rfl, hpos, rfl⟩ := check_eq_roll h
  rw [check, if_pos hpos, hmake]

/-- Without its typed modifier an action rolls the same, with no one-shot modifier. -/
theorem ofActor_untyped {sheet : Sheet} {k : Action.Kind} {m : Modifier} {request : RollRequest}
    (htyped : k.typed = [m]) (h : ofActor sheet k = .ok (.roll request)) :
    ofActor sheet k.untyped = .ok (.roll { request with oneShot := [] }) := by
  cases k with
  | attributeCheck name path amount desc target =>
    obtain ⟨amount, rfl, -⟩ := Option.map_eq_some_iff.1 (Option.toList_eq_singleton_iff.1 htyped)
    exact congrArg Except.ok (check_bare (Except.ok.inj h) fun _ => rfl)
  | skill name amount desc =>
    obtain ⟨amount, rfl, -⟩ := Option.map_eq_some_iff.1 (Option.toList_eq_singleton_iff.1 htyped)
    rw [Action.Kind.untyped, ofActor]
    rw [ofActor] at h
    cases hfound : sheet.findSkill? name with
    | none =>
      rw [hfound] at h
      cases h
    | some found =>
      rw [hfound] at h
      exact congrArg Except.ok (check_bare (Except.ok.inj h) fun _ => rfl)
  | attack name amount desc =>
    obtain ⟨amount, rfl, -⟩ := Option.map_eq_some_iff.1 (Option.toList_eq_singleton_iff.1 htyped)
    rw [Action.Kind.untyped, ofActor]
    rw [ofActor] at h
    cases hfound : sheet.findAttack? name with
    | none =>
      rw [hfound] at h
      cases h
    | some found =>
      rw [hfound] at h
      exact congrArg Except.ok (check_bare (Except.ok.inj h) fun _ => rfl)
  | _ => cases htyped

theorem ofKind_untyped {settings : Settings} {actor : Option Sheet} {k : Action.Kind} {m : Modifier}
    {request : RollRequest} (htyped : k.typed = [m])
    (h : ofKind settings actor k = .ok (.roll request)) :
    ofKind settings actor k.untyped = .ok (.roll { request with oneShot := [] }) := by
  cases k with
  | attributeCheck | skill | attack =>
    cases actor with
    | none => cases h
    | some sheet => exact ofActor_untyped htyped h
  | _ => cases htyped

end Intent

namespace Session

theorem askedOf_withOneShot (a : Action) (visibility : Option Visibility) (request : RollRequest)
    (ms : List Modifier) :
    askedOf a visibility { request with oneShot := ms } =
      { askedOf a visibility request with oneShot := ms } := by
  cases visibility with
  | none => rfl
  | some v =>
    unfold askedOf asked
    dsimp only
    split <;> rfl

theorem charge_of_agrees {report report' : Report} (h : report.Agrees report') (actor : Option Sheet) :
    charge report' actor = charge report actor := by
  rw [charge, charge, h.fatigueCost]

section Typed

variable {a : Action} {actor : Option Sheet} {m : Modifier} {request : RollRequest}

/-- An action without its typed modifier resolves the request of the action without the one-shot modifier. -/
theorem activate_untyped {s : Session} (htyped : a.kind.typed = [m])
    (h : Intent.ofKind s.settings actor a.kind = .ok (.roll request)) (visibility : Option Visibility) :
    s.activate a.untyped actor visibility =
      s.roll actor { askedOf a visibility request with oneShot := [] } := by
  have huntyped : Intent.ofKind s.settings actor a.untyped.kind = .ok (.roll { request with oneShot := [] }) :=
    Intent.ofKind_untyped htyped h
  have hasked : askedOf a.untyped visibility { request with oneShot := [] } =
      { askedOf a visibility request with oneShot := [] } := askedOf_withOneShot a visibility request []
  rw [activate_of_roll huntyped, hasked]

/-- A modifier typed into the span of a check and the same modifier put into the bucket before the check
without it have the same effect, for every attribute, skill or attack and every character, as long as
nothing in the bucket has its description and the amounts together are within the limits. The two reports
agree in all but the order of the modifiers, the characters and the dice are the same afterwards, and both
buckets are empty. -/
theorem activate_typed {s : Session} {visibility : Option Visibility} {report : Report}
    (htyped : a.kind.typed = [m]) (hnew : m.desc ∉ s.bucket.entries.map (·.desc))
    (hlimit : Modifier.weight (m :: s.bucket.entries) ≤ 2147483647)
    (hrolled : (s.activate a actor visibility).result = .ok (.rolled report))
    (orig : String) (blind : Bool) (shown : Option Visibility) :
    let typed := s.activate a actor visibility
    let added := s.activate ⟨orig, blind, .modifier m.amount m.desc⟩ actor shown
    let later := added.session.activate a.untyped added.actor visibility
    added.result = .ok (.modifierAdded m) ∧
      ∃ report', later.result = .ok (.rolled report') ∧ report.Agrees report' ∧
        later.actor = typed.actor ∧ later.session.dice = typed.session.dice ∧
        typed.session.bucket = .empty ∧ later.session.bucket = .empty := by
  obtain ⟨request, formula, hintent, hread⟩ := request_of_rolled hrolled
  have honeShot : request.oneShot = [m] := (Intent.oneShot_ofKind hintent).trans htyped
  let asking := askedOf a visibility request
  let bare : RollRequest := { asking with oneShot := [] }
  have hreadAsking : Formula.read? asking.formula = some formula := by
    rw [askedOf_formula]
    exact hread
  have hreadBare : Formula.read? bare.formula = some formula := hreadAsking
  have hturn := (activate_of_roll hintent visibility).trans (roll_of_read hreadAsking s actor)
  let s' := s.addModifier m
  have hlater := (activate_untyped (s := s') htyped hintent visibility).trans
    (roll_of_read hreadBare s' actor)
  -- the modifiers that count are the same up to their order
  have hentries : s'.bucket.entries = s.bucket.entries ++ [m] := Bucket.merge_of_notMem hnew
  have hcounted : asking.oneShot ++ s.bucket.entries = m :: s.bucket.entries := by
    rw [askedOf_oneShot, honeShot]
    rfl
  have hperm : (m :: s.bucket.entries).Perm (bare.oneShot ++ s'.bucket.entries) := by
    rw [hentries]
    exact (List.perm_append_singleton m s.bucket.entries).symm
  obtain ⟨hagrees, hdice⟩ := RollRequest.rolled_of_perm hperm hlimit asking formula s.dice
  rw [hcounted] at hturn
  rw [hturn] at hrolled
  obtain rfl := Activation.rolled.inj (Except.ok.inj hrolled)
  intro typed added later
  have htypedTurn : typed = _ := hturn
  have hlaterTurn : later = _ := hlater
  rw [htypedTurn, hlaterTurn]
  exact ⟨rfl, _, rfl, hagrees, charge_of_agrees hagrees actor, hdice.symm, rfl, rfl⟩

end Typed

/-- A typed modifier that costs fatigue, rolled against a skill with shock in the bucket. -/
theorem activate_typed_costly :
    let sheet : Sheet := { skills := [⟨"Karate", 14⟩], fatigue := ⟨10, 10⟩ }
    let shock : Modifier := ⟨.clamp (-4), "shock"⟩
    let s : Session := { settings := {}, dice := .ofFaces [5, 4, 3], bucket := .ofEntries [shock] }
    let m : Modifier := ⟨2, "slam *Costs 3FP"⟩
    let a : Action := ⟨"Karate+2 slam *Costs 3FP", false, .skill "Karate" (some m.amount) m.desc⟩
    let added := s.activate ⟨"+2 slam *Costs 3FP", false, .modifier m.amount m.desc⟩ (some sheet) none
    let later := added.session.activate a.untyped added.actor none
    let report : Report :=
      { label := "Karate", faces := [5, 4, 3], modifiers := [m, shock], visibility := .everyone,
        outcome := ⟨12, some 12, some 0, false, false, none, some .success⟩, fatigueCost := 3,
        text := "Karate (14)\n  +2 : slam *Costs 3FP\n  -4 : shock\nNew Target: (12)\nRolled 12 -> " ++
          "Success! just made it" }
    (s.activate a (some sheet) none).result = .ok (.rolled report) ∧
      ∃ report', later.result = .ok (.rolled report') ∧ report.Agrees report' ∧
        later.actor = some { sheet with fatigue := ⟨7, 10⟩ } ∧ later.session.bucket = .empty := by
  intro sheet shock s m a added later report
  have hrolled : (s.activate a (some sheet) none).result = .ok (.rolled report) := by decide +kernel
  have hnew : m.desc ∉ s.bucket.entries.map (·.desc) := by decide
  have hlimit : Modifier.weight (m :: s.bucket.entries) ≤ 2147483647 := by decide
  obtain ⟨-, report', hlater, hagrees, hactor, -, -, hbucket⟩ :=
    activate_typed rfl hnew hlimit hrolled "+2 slam *Costs 3FP" false none
  have hcharged : (s.activate a (some sheet) none).actor = some { sheet with fatigue := ⟨7, 10⟩ } := by
    decide +kernel
  exact ⟨hrolled, report', hlater, hagrees, hactor.trans hcharged, hbucket⟩

end Session

end Rollmark
