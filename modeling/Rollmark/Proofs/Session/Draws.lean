/-
Draws: no run skips dice or rolls them twice. Whoever draws one die after another from the dice that a
session begins with, with the sides that the formulas of its rolls ask for, gets the faces of all reports
in their order, and is left with the dice of the session.

Only a roll touches the dice: its formula is read first, and then all of its dice are rolled at once.
A run is one step after another, so its draws are put behind each other.
-/
import Rollmark.Proofs.Dice
import Rollmark.Proofs.Session.Run

namespace Rollmark

/-- The sides of the dice of a formula, one number for each die. -/
def Formula.kinds (f : Formula) : List Nat := List.replicate (min f.count limit) (min f.sides limit)

/-- A step in the session that it is taken in. -/
structure Moment where
  session : Session
  step : Step

/-- The formula that an action rolls for a character, if it comes down to a roll and its formula can be
read. -/
def Session.formula? (s : Session) (actor : Option Sheet) (a : Action) : Option Formula :=
  match Intent.ofKind s.settings actor a.kind with
  | .ok (.roll request) => Formula.read? request.formula
  | _ => none

namespace Moment

/-- What the step did, if it is an activation and did not fail. -/
def activation? (m : Moment) : Option Activation :=
  match m.step with
  | .activate a actor visibility => (m.session.activate a actor visibility).result.toOption
  | .activateText text actor visibility => (m.session.activateText text actor visibility).result.toOption
  | .add _ | .setRange _ | .remove _ | .clear => none

def report? (m : Moment) : Option Report := m.activation?.bind Activation.report?

def formula? (m : Moment) : Option Formula :=
  match m.step with
  | .activate a actor _ => m.session.formula? actor a
  | .activateText text actor _ => (m.session.parsed? text).bind (m.session.formula? actor)
  | .add _ | .setRange _ | .remove _ | .clear => none

def after (m : Moment) : Session := m.session.step m.step

end Moment

/-- The steps of a run, each in the session that it is taken in. -/
def Session.moments (s : Session) : List Step → List Moment
  | [] => []
  | x :: steps => ⟨s, x⟩ :: moments (s.step x) steps

/-! ## One step -/

/-- A step rolls the dice of its formula once, or it draws nothing. -/
inductive Moment.Draws (m : Moment) : Prop where
  | rolled {formula : Formula} {report : Report} (hformula : m.formula? = some formula)
      (hreport : m.report? = some report)
      (hfaces : (report.faces, m.after.dice) =
        m.session.dice.rollMany (min formula.sides Formula.limit) (min formula.count Formula.limit))
  | nothing (hformula : m.formula? = none) (hreport : m.report? = none)
      (hdice : m.after.dice = m.session.dice)

namespace Session

section Steps

variable {s : Session} {a : Action} {actor : Option Sheet} {visibility : Option Visibility} {x : Step}

theorem formula?_of_roll {request : RollRequest}
    (h : Intent.ofKind s.settings actor a.kind = .ok (.roll request)) :
    s.formula? actor a = Formula.read? request.formula := by
  rw [formula?, h]

theorem draws_effect {turn : Turn} (he : Effect s a actor visibility turn)
    (hactivation : Moment.activation? ⟨s, x⟩ = turn.result.toOption)
    (hformula : Moment.formula? ⟨s, x⟩ = s.formula? actor a)
    (hafter : s.step x = turn.session) : Moment.Draws ⟨s, x⟩ := by
  have hreport : Moment.report? ⟨s, x⟩ = turn.result.toOption.bind Activation.report? := by
    rw [Moment.report?, hactivation]
  have hdice : (s.step x).dice = turn.session.dice := congrArg Session.dice hafter
  cases he with
  | @rolled request report dice h hr =>
    -- the formula that was read is the one whose dice were rolled
    obtain ⟨formula, hread, -, hrolled⟩ := resolve_ok hr
    have hfaces := (askedOf a visibility request).rolled_faces formula
      ((askedOf a visibility request).oneShot ++ s.bucket.entries) s.dice
    rw [← hrolled] at hfaces
    rw [askedOf_formula] at hread
    refine .rolled (hformula.trans ((formula?_of_roll h).trans hread)) hreport ?_
    rw [Moment.after, hdice]
    exact hfaces
  | unreadable h hr =>
    rw [askedOf_formula] at hr
    exact .nothing (hformula.trans ((formula?_of_roll h).trans hr)) hreport hdice
  | refused h | damage h | modifier h | reference h | nothing h =>
    refine .nothing (hformula.trans ?_) hreport hdice
    rw [formula?, h]

theorem draws_step (s : Session) (x : Step) : Moment.Draws ⟨s, x⟩ := by
  cases x with
  | add m | setRange amount | clear => exact .nothing rfl rfl rfl
  | remove index => exact .nothing rfl rfl (s.removeModifier_keeps index).2
  | activate a actor visibility => exact draws_effect (s.activate_effect a actor visibility) rfl rfl rfl
  | activateText text actor visibility =>
    cases ha : s.parsed? text with
    | none =>
      have hturn := activateText_of_none ha actor visibility
      refine .nothing ?_ ?_ ?_
      · show (s.parsed? text).bind _ = none
        rw [ha]
        rfl
      · show (s.activateText text actor visibility).result.toOption.bind Activation.report? = none
        rw [hturn]
        rfl
      · show (s.activateText text actor visibility).session.dice = s.dice
        rw [hturn]
    | some a =>
      have hturn := activateText_of_some ha actor visibility
      refine draws_effect (s.activate_effect a actor visibility) ?_ ?_ ?_
      · show (s.activateText text actor visibility).result.toOption = _
        rw [hturn]
      · show (s.parsed? text).bind _ = _
        rw [ha]
        rfl
      · show (s.activateText text actor visibility).session = _
        rw [hturn]

end Steps

/-! ## Every run -/

/-- The draws of a run are those of its steps, one step after the other. -/
theorem draw_moments (s : Session) (steps : List Step) :
    s.dice.draw (((s.moments steps).filterMap Moment.formula?).flatMap Formula.kinds) =
      (((s.moments steps).filterMap Moment.report?).flatMap Report.faces, (s.run steps).dice) := by
  induction steps generalizing s with
  | nil => rfl
  | cons x steps ih =>
    -- the dice that the first step leaves are the ones that the rest is drawn from
    have hrest := ih (s.step x)
    rw [run_cons, moments, List.filterMap_cons, List.filterMap_cons]
    cases draws_step s x with
    | rolled hformula hreport hfaces =>
      obtain ⟨hfaces, hdice⟩ := Prod.mk.inj hfaces
      rw [hformula, hreport]
      dsimp only
      rw [List.flatMap_cons, List.flatMap_cons, Dice.draw_append, Formula.kinds, Dice.draw_replicate,
        ← hdice, ← hfaces, Moment.after, hrest]
    | nothing hformula hreport hdice =>
      rw [hformula, hreport]
      dsimp only
      rw [← hdice, Moment.after, hrest]

/-- In every run, from every dice, the faces of the reports are what one die after another shows with the
sides that the formulas of the rolls ask for, and the dice are left as those draws leave them. A step that
rolls has a formula, as many faces as dice, and no face outside of its die; a step that does not roll has
none and draws nothing. -/
theorem draw_run (s : Session) (steps : List Step) :
    let moments := s.moments steps
    s.dice.draw ((moments.filterMap Moment.formula?).flatMap Formula.kinds) =
        ((moments.filterMap Moment.report?).flatMap Report.faces, (s.run steps).dice) ∧
      (∀ m ∈ moments, ∀ report, m.report? = some report → ∃ formula, m.formula? = some formula ∧
        report.faces.length = min formula.count 1000 ∧
        ∀ face ∈ report.faces, 1 ≤ face ∧ face ≤ max 1 (min formula.sides 1000)) ∧
      ∀ m ∈ moments, m.report? = none → m.formula? = none ∧ m.after.dice = m.session.dice := by
  intro moments
  refine ⟨draw_moments s steps, fun m _ report hreport => ?_, fun m _ hreport => ?_⟩
  · cases draws_step m.session m.step with
    | rolled hformula hreport' hfaces =>
      obtain rfl := Option.some.inj (hreport'.symm.trans hreport)
      obtain ⟨hfaces, -⟩ := Prod.mk.inj hfaces
      refine ⟨_, hformula, ?_, ?_⟩
      · rw [hfaces, Dice.length_rollMany]
        rfl
      · rw [hfaces, Nat.max_comm]
        exact Dice.rollMany_bounds _ _ _
    | nothing _ hreport' _ => cases hreport'.symm.trans hreport
  · cases draws_step m.session m.step with
    | rolled _ hreport' _ => cases hreport'.symm.trans hreport
    | nothing hformula _ hdice => exact ⟨hformula, hdice⟩

/-- Scripted dice: three that show a face that is too high, one that is too low and one that is in range, a
request for damage, dice that cannot be read, and two dice that go on where the first ones stopped. Seeded
dice: behind a request for damage the second roll shows what the stream gives after the first one. -/
theorem draw_run_scripted :
    let s : Session := { settings := {}, dice := .ofFaces [9, 0, 3] }
    let first : Moment := ⟨s, .activateText "3d" none none⟩
    let steps : List Step := [first.step, .activateText "2d cut" none none,
      .activate ⟨"", false, .roll "2d4+" ""⟩ none none, .activate ⟨"", false, .roll "2d4" ""⟩ none none]
    let moments := s.moments steps
    let seeded : Session := { settings := {}, dice := .ofSeed 42 }
    let rolls : List Step := [first.step, .activateText "2d cut" none none, first.step]
    (moments.filterMap Moment.formula?).flatMap Formula.kinds = [6, 6, 6, 4, 4] ∧
      (moments.filterMap Moment.report?).flatMap Report.faces = [6, 1, 3, 4, 1] ∧
      first ∈ moments ∧ (first.report?.map Report.faces) = some [6, 1, 3] ∧
      ((seeded.moments rolls).filterMap Moment.report?).map Report.faces = [[2, 5, 6], [5, 3, 3]] ∧
      seeded.dice.draw [6, 6, 6, 6, 6, 6] = ([2, 5, 6, 5, 3, 3], (seeded.run rolls).dice) := by
  intro s first steps moments seeded rolls
  have hrun := (draw_run s steps).1
  have hkinds : ((s.moments steps).filterMap Moment.formula?).flatMap Formula.kinds = [6, 6, 6, 4, 4] := by
    decide +kernel
  have hdrawn : (s.dice.draw [6, 6, 6, 4, 4]).1 = [6, 1, 3, 4, 1] := by decide
  rw [hkinds] at hrun
  rw [hrun] at hdrawn
  dsimp only at hdrawn
  have hfirst : first ∈ s.moments steps := List.mem_cons_self
  have hshown : first.report?.map Report.faces = some [6, 1, 3] := by decide +kernel
  -- the same for the stream of a seed
  have hstream := (draw_run seeded rolls).1
  have hsixes : ((seeded.moments rolls).filterMap Moment.formula?).flatMap Formula.kinds =
      [6, 6, 6, 6, 6, 6] := by
    decide +kernel
  have hfaces : ((seeded.moments rolls).filterMap Moment.report?).map Report.faces =
      [[2, 5, 6], [5, 3, 3]] := by
    decide +kernel
  rw [hsixes, List.flatMap_def, hfaces] at hstream
  exact ⟨hkinds, hdrawn, hfirst, hshown, hfaces, hstream⟩

end Session

end Rollmark
