/-
Requests in a session: whatever an action asks to be rolled can be rolled as it was asked for. Dice without
a target are asked for by nothing but dice and derived dice. Every other roll is three dice against a
positive target, so it has a formula that can be read, and its report has a target and a result.
-/
import Rollmark.Proofs.Intent
import Rollmark.Proofs.Session.Effect

namespace Rollmark

namespace RollRequest.Serves

variable {request : RollRequest} {k : Action.Kind} (h : request.Serves k) (hcheck : k.isOpen = false)
include h hcheck

/-- The formula of a check can be read. -/
theorem read?_ne_none : Formula.read? request.formula ≠ none := by
  rw [(h.check hcheck).1]
  decide

/-- A check is reported with its target, its margin and its result. -/
theorem exists_result {bucket bucket' : Bucket} {dice dice' : Dice} {report : Report}
    (hresolve : resolve request bucket dice = (.ok report, bucket', dice')) :
    ∃ final margin result, report.outcome.target = some final ∧ report.outcome.margin = some margin ∧
      report.outcome.result = some result := by
  obtain ⟨-, t, htarget, hpos⟩ := h.check hcheck
  obtain ⟨formula, -, -, hrolled⟩ := resolve_ok hresolve
  rw [request.rolled_of_pos formula _ dice htarget hpos] at hrolled
  cases hrolled
  exact ⟨_, _, _, rfl, rfl, rfl⟩

end RollRequest.Serves

namespace Session

/-- Whoever asks to see a roll does not change what it is. -/
theorem serves_askedOf {request : RollRequest} {a : Action} (h : request.Serves a.kind)
    (visibility : Option Visibility) : (askedOf a visibility request).Serves a.kind := by
  obtain ⟨v, hasked⟩ := askedOf_eq a visibility request
  rw [hasked]
  exact h.withVisibility v

/-- A check in a session never fails for its formula and is never rolled without a target. -/
theorem activate_check {a : Action} (hcheck : a.kind.isOpen = false) (s : Session) (actor : Option Sheet)
    (visibility : Option Visibility) :
    (∀ text, (s.activate a actor visibility).result ≠ .error (.invalidFormula text)) ∧
      ∀ report, (s.activate a actor visibility).result = .ok (.rolled report) →
        ∃ final margin result, report.outcome.target = some final ∧ report.outcome.margin = some margin ∧
          report.outcome.result = some result := by
  have he := s.activate_effect a actor visibility
  generalize s.activate a actor visibility = turn at he
  cases he with
  | refused hintent =>
    refine ⟨fun text hresult => ?_, by rintro report ⟨⟩⟩
    exact Intent.ne_invalidFormula hintent text (Except.error.inj hresult)
  | unreadable hintent hread =>
    have hserves := serves_askedOf (Intent.serves_ofKind hintent) visibility
    exact absurd hread (hserves.read?_ne_none hcheck)
  | rolled hintent hresolve =>
    have hserves := serves_askedOf (Intent.serves_ofKind hintent) visibility
    refine ⟨by rintro text ⟨⟩, ?_⟩
    rintro report ⟨⟩
    exact hserves.exists_result hcheck hresolve
  | damage | modifier | reference | nothing => exact ⟨by rintro text ⟨⟩, by rintro report ⟨⟩⟩

end Session

/-- What is dispatched can be rolled, for every action, every character and every bucket. A request has no
target exactly for dice and derived dice; any other is for three dice against a positive target. Its one-shot
modifier is the one that was typed into the span of its action, and only an attack has a rate of fire and a
recoil. The bucket changes for a modifier action alone, by the one modifier. So no other action than dice and
derived dice is refused for its formula or rolled without a target, in any session. -/
theorem dispatch_serves (settings : Settings) (actor : Option Sheet) (a : Action) (bucket : Bucket) :
    (∀ request bucket', dispatch settings actor a bucket = (.ok (.roll request), bucket') →
      (request.target = none ↔ a.kind.isOpen = true) ∧
      (a.kind.isOpen = false → request.formula = "3d6" ∧ ∃ t, request.target = some t ∧ 0 < t) ∧
      request.oneShot = a.kind.typed ∧
      (a.kind.isAttack = false → request.rof = none ∧ request.rcl = none)) ∧
    (∀ amount desc, a.kind = .modifier amount desc →
      dispatch settings actor a bucket = (.ok (.modifier ⟨amount, desc⟩), bucket.add ⟨amount, desc⟩)) ∧
    ((∀ amount desc, a.kind ≠ .modifier amount desc) → (dispatch settings actor a bucket).2 = bucket) ∧
    (a.kind.isOpen = false → ∀ (s : Session) (visibility : Option Visibility),
      (∀ text, (s.activate a actor visibility).result ≠ .error (.invalidFormula text)) ∧
      ∀ report, (s.activate a actor visibility).result = .ok (.rolled report) →
        ∃ final margin result, report.outcome.target = some final ∧ report.outcome.margin = some margin ∧
          report.outcome.result = some result) := by
  refine ⟨fun request bucket' h => ?_, fun amount desc h => dispatch_modifier h, dispatch_snd,
    fun hcheck s visibility => Session.activate_check hcheck s actor visibility⟩
  have hserves := dispatch_eq_roll h
  exact ⟨hserves.target, hserves.check, hserves.oneShot, hserves.rapidFire⟩

/-- A shot with a typed modifier, and the same modifier for the bucket. -/
theorem dispatch_serves_shot :
    let sheet : Sheet := { ranged := [⟨"Bow", "", "14", "", "3", "2"⟩] }
    let aim : Modifier := ⟨1, "aim"⟩
    let shot : Action := ⟨"A:Bow+1 aim", true, .attack "Bow" (some aim.amount) aim.desc⟩
    let added : Action := ⟨"+1 aim", false, .modifier aim.amount aim.desc⟩
    let request : RollRequest :=
      { RollRequest.check 14 "Bow" with oneShot := [aim], rof := some 3, rcl := some 2, visibility := .gameMaster }
    let s : Session := { settings := {}, dice := .ofFaces [4] }
    dispatch {} (some sheet) shot .empty = (.ok (.roll request), .empty) ∧
      shot.kind.isOpen = false ∧ request.oneShot = shot.kind.typed ∧
      (request.formula = "3d6" ∧ ∃ t, request.target = some t ∧ 0 < t) ∧
      dispatch {} (some sheet) added .empty = (.ok (.modifier aim), Bucket.add .empty aim) ∧
      ∀ text, (s.activate shot (some sheet) none).result ≠ .error (.invalidFormula text) := by
  intro sheet aim shot added request s
  have hdispatch : dispatch {} (some sheet) shot .empty = (.ok (.roll request), .empty) := by decide
  obtain ⟨hrequest, -, -, hactivate⟩ := dispatch_serves {} (some sheet) shot .empty
  obtain ⟨-, hcheck, honeShot, -⟩ := hrequest request .empty hdispatch
  have hadded := (dispatch_serves {} (some sheet) added .empty).2.1 aim.amount aim.desc rfl
  exact ⟨hdispatch, rfl, honeShot, hcheck rfl, hadded, (hactivate rfl s none).1⟩

end Rollmark
