/-
The books of a scene: in every script, what was posted to the table is what the moves answered, in
their order, and the character has lost the fatigue of the rolls that it made itself, and nothing else.

A move is looked at in the scene that it is made in. One case for each way in which an activation can
end says what it posts and what it charges; scripts follow by putting moves behind each other. A cost is
never negative, so the points of the character stop at most once, and they stop at the least amount.
-/
import Mathlib.Algebra.Order.BigOperators.Group.List
import Rollmark.Proofs.Session.Effect
import Rollmark.Proofs.Session.Scene

namespace Rollmark

/-! ## What was answered -/

/-- The character is hidden from a move. An edit of the bucket has nothing to do with the character. -/
def Move.hidden : Move → Bool
  | .activate _ _ hidden | .activateText _ _ hidden => hidden
  | .add _ | .setRange _ | .remove _ | .clear => false

/-- A move in the scene that it is made in. -/
structure Beat where
  scene : Scene
  move : Move

namespace Beat

/-- What the move did, if it is an activation and did not fail. -/
def activation? (b : Beat) : Option Activation := (b.scene.move b.move).1.bind Except.toOption

def after (b : Beat) : Scene := (b.scene.move b.move).2

def report? (b : Beat) : Option Report := b.activation?.bind Activation.report?

def damage? (b : Beat) : Option DamageRequest := b.activation?.bind Activation.damage?

def reference? (b : Beat) : Option Reference := b.activation?.bind Activation.reference?

/-- The fatigue that a roll costs the character, unless it is hidden from it. -/
def cost? (b : Beat) : Option Amount :=
  if b.move.hidden then none else b.report?.map (·.fatigueCost)

end Beat

namespace Scene

def play (c : Scene) (script : List Move) : Scene := script.foldl (fun c x => (c.move x).2) c

/-- The moves of a script, each in the scene that it is made in. -/
def beats (c : Scene) : List Move → List Beat
  | [] => []
  | x :: script => ⟨c, x⟩ :: beats (c.move x).2 script

end Scene

/-- A table with one more answer on it. What failed, and what adds a modifier or does nothing, is not
posted. -/
def Table.post (t : Table) : Option Activation → Table
  | some (.rolled report) => { t with outcomes := t.outcomes ++ [report] }
  | some (.damage request) => { t with damage := t.damage ++ [request] }
  | some (.reference r) => { t with references := t.references ++ [r] }
  | some (.modifierAdded _) | some .nothing | some .unrecognized | none => t

section Posts

variable (t : Table) (answer : Option Activation)

theorem Table.post_outcomes :
    (t.post answer).outcomes = t.outcomes ++ (answer.bind Activation.report?).toList := by
  rcases answer with _ | (report | request | m | r | _ | _)
  case some.rolled => rfl
  all_goals exact (List.append_nil _).symm

theorem Table.post_damage : (t.post answer).damage = t.damage ++ (answer.bind Activation.damage?).toList := by
  rcases answer with _ | (report | request | m | r | _ | _)
  case some.damage => rfl
  all_goals exact (List.append_nil _).symm

theorem Table.post_references :
    (t.post answer).references = t.references ++ (answer.bind Activation.reference?).toList := by
  rcases answer with _ | (report | request | m | r | _ | _)
  case some.reference => rfl
  all_goals exact (List.append_nil _).symm

end Posts

/-! ## Charges -/

/-- The character after some costs, one after the other. -/
def Sheet.spendAll (s : Sheet) (costs : List Amount) : Sheet := costs.foldl spendFatigue s

/-- Costs that are not negative are spent exactly, until the points stop at the least amount. -/
theorem Sheet.spendAll_eq {costs : List Amount} (h : ∀ cost ∈ costs, 0 ≤ cost.val) (s : Sheet) :
    ∃ value : Amount, s.spendAll costs = { s with fatigue := { s.fatigue with value } } ∧
      value.val = max (-2147483648) (s.fatigue.value.val - (costs.map (·.val)).sum) := by
  induction costs generalizing s with
  | nil =>
    have hlower := s.fatigue.value.lower
    refine ⟨s.fatigue.value, rfl, ?_⟩
    rw [List.map_nil, List.sum_nil]
    omega
  | cons cost costs ih =>
    -- the points that are left are the start of the costs that follow
    obtain ⟨value, hspent, hvalue⟩ := ih (fun c hc => h c (List.mem_cons_of_mem _ hc)) (s.spendFatigue cost)
    have hfirst : (s.spendFatigue cost).fatigue.value.val =
        max (-2147483648) (min (s.fatigue.value.val - cost.val) 2147483647) := rfl
    have hcost := h cost List.mem_cons_self
    have hupper := s.fatigue.value.upper
    have hrest : 0 ≤ (costs.map (·.val)).sum := List.sum_nonneg fun n hn => by
      obtain ⟨c, hc, rfl⟩ := List.mem_map.1 hn
      exact h c (List.mem_cons_of_mem _ hc)
    refine ⟨value, hspent, ?_⟩
    rw [hvalue, hfirst, List.map_cons, List.sum_cons]
    omega

/-- A roll that costs nothing charges nothing, so every roll charges what it costs. -/
theorem Session.charge_eq (report : Report) (actor : Option Sheet) :
    charge report actor = actor.map (·.spendFatigue report.fatigueCost) := by
  unfold charge
  split
  · rename_i hzero
    cases actor with
    | none => rfl
    | some sheet =>
      have hvalue : sheet.fatigue.value - report.fatigueCost = sheet.fatigue.value := by
        have hlower := sheet.fatigue.value.lower
        have hupper := sheet.fatigue.value.upper
        rw [hzero]
        refine Amount.eq_of_val_eq ?_
        show max (-2147483648) (min (sheet.fatigue.value.val - 0) 2147483647) = sheet.fatigue.value.val
        omega
      rw [Option.map_some, Sheet.spendFatigue, hvalue]
  · rfl

/-! ## One move -/

/-- The books between two scenes: what was posted is what the moves answered, in their order, no cost is
negative, and the character was charged what its own rolls cost. -/
structure Books (c c' : Scene) (beats : List Beat) : Prop where
  outcomes : c'.session.table.outcomes = c.session.table.outcomes ++ beats.filterMap Beat.report?
  damage : c'.session.table.damage = c.session.table.damage ++ beats.filterMap Beat.damage?
  references : c'.session.table.references = c.session.table.references ++ beats.filterMap Beat.reference?
  costs : ∀ report ∈ beats.filterMap Beat.report?, 0 ≤ report.fatigueCost.val
  character : c'.character = c.character.map (·.spendAll (beats.filterMap Beat.cost?))

namespace Books

theorem nil (c : Scene) : Books c c [] := by
  refine ⟨(List.append_nil _).symm, (List.append_nil _).symm, (List.append_nil _).symm, ?_, ?_⟩
  · rintro report ⟨⟩
  · cases c.character <;> rfl

theorem append {c c' c'' : Scene} {beats beats' : List Beat} (h : Books c c' beats)
    (h' : Books c' c'' beats') : Books c c'' (beats ++ beats') := by
  constructor
  · rw [h'.outcomes, h.outcomes, List.filterMap_append, List.append_assoc]
  · rw [h'.damage, h.damage, List.filterMap_append, List.append_assoc]
  · rw [h'.references, h.references, List.filterMap_append, List.append_assoc]
  · intro report hreport
    rw [List.filterMap_append, List.mem_append] at hreport
    exact hreport.elim (h.costs report) (h'.costs report)
  · rw [h'.character, h.character, List.filterMap_append, Option.map_map]
    refine congrArg (Option.map · c.character) (funext fun sheet => ?_)
    exact (List.foldl_append ..).symm

theorem single {b : Beat} (htable : b.after.session.table = b.scene.session.table.post b.activation?)
    (hcost : ∀ report, b.activation? = some (.rolled report) → 0 ≤ report.fatigueCost.val)
    (hcharacter : b.after.character = b.scene.character.map (·.spendAll b.cost?.toList)) :
    Books b.scene b.after [b] := by
  have hone : ∀ {α : Type} (f : Beat → Option α), [b].filterMap f = (f b).toList := by
    intro α f
    rw [List.filterMap_cons]
    cases f b <;> rfl
  constructor
  · rw [htable, hone, Table.post_outcomes, Beat.report?]
  · rw [htable, hone, Table.post_damage, Beat.damage?]
  · rw [htable, hone, Table.post_references, Beat.reference?]
  · intro report hreport
    rw [hone, Option.mem_toList, Beat.report?] at hreport
    obtain ⟨activation, hactivation, hrolled⟩ := Option.bind_eq_some_iff.1 hreport
    cases activation with
    | rolled report' =>
      cases hrolled
      exact hcost report hactivation
    | _ => cases hrolled
  · rw [hone, hcharacter]

end Books

namespace Scene

section Moves

variable (c : Scene)

/-- A move that edits the bucket, or a text that is not recognized: nothing is posted and nothing is
charged. -/
theorem books_still {x : Move}
    (hanswer : Beat.activation? ⟨c, x⟩ = none ∨ Beat.activation? ⟨c, x⟩ = some .unrecognized)
    (htable : (c.move x).2.session.table = c.session.table)
    (hcharacter : (c.move x).2.character = c.character) : Books c (c.move x).2 [⟨c, x⟩] := by
  have hreport : Beat.report? ⟨c, x⟩ = none := by
    rw [Beat.report?]
    rcases hanswer with h | h <;> rw [h] <;> rfl
  have hcost : Beat.cost? ⟨c, x⟩ = none := by
    rw [Beat.cost?, hreport]
    exact ite_self none
  refine @Books.single ⟨c, x⟩ ?_ ?_ ?_
  · rcases hanswer with h | h <;> rw [h] <;> exact htable
  · rcases hanswer with h | h <;> rw [h] <;> rintro report ⟨⟩
  · rw [hcost]
    exact hcharacter.trans Option.map_id'.symm

/-- What an activation posts is what it answers, and the character pays for it unless it is hidden. -/
theorem books_effect {x : Move} {turn : Turn} {a : Action} {visibility : Option Visibility}
    (hmove : c.move x = c.after x.hidden turn)
    (he : Session.Effect c.session a (c.actor x.hidden) visibility turn) :
    Books c (c.move x).2 [⟨c, x⟩] := by
  have hactivation : Beat.activation? ⟨c, x⟩ = turn.result.toOption := by
    rw [Beat.activation?, hmove]
    rfl
  have hafter : Beat.after ⟨c, x⟩ = (c.after x.hidden turn).2 := by rw [Beat.after, hmove]
  have hcost : Beat.cost? ⟨c, x⟩ =
      if x.hidden then none else (turn.result.toOption.bind Activation.report?).map (·.fatigueCost) := by
    rw [Beat.cost?, Beat.report?, hactivation]
  refine @Books.single ⟨c, x⟩ ?_ ?_ ?_
  · rw [hactivation, hafter]
    cases he <;> rfl
  · rw [hactivation]
    intro report hrolled
    cases he with
    | rolled _ hr =>
      cases hrolled
      rw [resolve_fatigueCost hr]
      exact nonneg_fatigueCost _
    | _ => cases hrolled
  · rw [hcost, hafter]
    show (if x.hidden then c.character else turn.actor) = _
    -- a hidden character is handed back as it was, and one that takes part pays for rolls only
    cases hhidden : x.hidden with
    | true => exact Option.map_id'.symm
    | false =>
      have hactor : c.actor x.hidden = c.character := by rw [hhidden]; rfl
      rw [← hactor]
      cases he with
      | rolled _ _ => exact Session.charge_eq _ _
      | _ => exact Option.map_id'.symm

theorem books_move (x : Move) : Books c (c.move x).2 [⟨c, x⟩] := by
  cases x with
  | add m | setRange amount | clear => exact c.books_still (.inl rfl) rfl rfl
  | remove index =>
    exact c.books_still (.inl rfl) (c.session.removeModifier_keeps index).1 rfl
  | activate a visibility hidden => exact c.books_effect rfl (c.session.activate_effect a _ visibility)
  | activateText text visibility hidden =>
    cases ha : c.session.parsed? text with
    | none =>
      have hmove : c.move (.activateText text visibility hidden) =
          c.after hidden ⟨.ok .unrecognized, c.session, c.actor hidden⟩ :=
        congrArg (c.after hidden) (Session.activateText_of_none ha (c.actor hidden) visibility)
      refine c.books_still (.inr ?_) ?_ ?_
      · rw [Beat.activation?, hmove]
        rfl
      · rw [hmove]
        rfl
      · rw [hmove]
        cases hidden <;> rfl
    | some a =>
      have hmove : c.move (.activateText text visibility hidden) =
          c.after hidden (c.session.activate a (c.actor hidden) visibility) :=
        congrArg (c.after hidden) (Session.activateText_of_some ha (c.actor hidden) visibility)
      exact c.books_effect hmove (c.session.activate_effect a _ visibility)

end Moves

theorem books_script (c : Scene) (script : List Move) : Books c (c.play script) (c.beats script) := by
  induction script generalizing c with
  | nil => exact .nil c
  | cons x script ih => exact (c.books_move x).append (ih (c.move x).2)

theorem books_beat (b : Beat) : Books b.scene b.after [b] := b.scene.books_move b.move

/-- In every script, the reports, the requests for damage and the pages on the table are those that the
moves answered, in their order. No cost is negative. The points of the character are what they were
without the costs of its own rolls, down to the least amount, and the rest of its sheet is as it was. A
move that does not roll, or from which the character is hidden, leaves it alone. -/
theorem books_play (c : Scene) (script : List Move) :
    let beats := c.beats script
    let after := c.play script
    after.session.table.outcomes = c.session.table.outcomes ++ beats.filterMap Beat.report? ∧
      after.session.table.damage = c.session.table.damage ++ beats.filterMap Beat.damage? ∧
      after.session.table.references = c.session.table.references ++ beats.filterMap Beat.reference? ∧
      (∀ report ∈ beats.filterMap Beat.report?, 0 ≤ report.fatigueCost.val) ∧
      (c.character = none → after.character = none) ∧
      (∀ sheet, c.character = some sheet → ∃ value : Amount,
        after.character = some { sheet with fatigue := { sheet.fatigue with value } } ∧
        value.val = max (-2147483648)
          (sheet.fatigue.value.val - ((beats.filterMap Beat.cost?).map (·.val)).sum)) ∧
      ∀ b ∈ beats, b.move.hidden = true ∨ b.report? = none → b.after.character = b.scene.character := by
  intro beats after
  have hbooks := c.books_script script
  refine ⟨hbooks.outcomes, hbooks.damage, hbooks.references, hbooks.costs, ?_, ?_, ?_⟩
  · intro hnone
    rw [hbooks.character, hnone]
    rfl
  · intro sheet hsheet
    have hcosts : ∀ cost ∈ beats.filterMap Beat.cost?, 0 ≤ cost.val := by
      intro cost hcost
      obtain ⟨b, hb, hbcost⟩ := List.mem_filterMap.1 hcost
      rw [Beat.cost?] at hbcost
      split at hbcost
      · cases hbcost
      · obtain ⟨report, hreport, rfl⟩ := Option.map_eq_some_iff.1 hbcost
        exact hbooks.costs report (List.mem_filterMap.2 ⟨b, hb, hreport⟩)
    obtain ⟨value, hspent, hvalue⟩ := sheet.spendAll_eq hcosts
    refine ⟨value, ?_, hvalue⟩
    rw [hbooks.character, hsheet, Option.map_some, hspent]
  · intro b _ hfree
    have hcost : b.cost? = none := by
      rw [Beat.cost?]
      rcases hfree with hhidden | hreport
      · rw [if_pos hhidden]
      · rw [hreport]
        exact ite_self none
    rw [(books_beat b).character, List.filterMap_cons, hcost]
    cases b.scene.character <;> rfl

/-- A roll that costs more than the points above the least amount, the same roll with the character
hidden, and a roll that fails. -/
theorem books_play_costs :
    let sheet : Sheet := { fatigue := ⟨.clamp (-2147483647), 10⟩ }
    let c : Scene := ⟨{ settings := {}, dice := .ofFaces [3] }, some sheet⟩
    let script : List Move := [.add ⟨2, "*Cost 2FP"⟩, .activateText "3d" none true,
      .add ⟨2, "*Cost 4FP"⟩, .activateText "3d" none false, .activateText "S:Stealth" none false]
    (c.beats script).filterMap Beat.cost? = [4] ∧
      (∃ value : Amount, (c.play script).character =
        some { sheet with fatigue := { sheet.fatigue with value } } ∧ value.val = -2147483648) ∧
      ∃ b ∈ c.beats script, b.report?.map (·.fatigueCost) = some 2 ∧ b.move.hidden = true ∧
        b.after.character = b.scene.character := by
  intro sheet c script
  have hcosts : (c.beats script).filterMap Beat.cost? = [4] := by decide +kernel
  obtain ⟨-, -, -, -, -, hpaid, hfree⟩ := books_play c script
  obtain ⟨value, hcharacter, hvalue⟩ := hpaid sheet rfl
  rw [hcosts] at hvalue
  have hbeat : ⟨(c.move (.add ⟨2, "*Cost 2FP"⟩)).2, .activateText "3d" none true⟩ ∈ c.beats script :=
    List.mem_cons_of_mem _ List.mem_cons_self
  exact ⟨hcosts, ⟨value, hcharacter, hvalue⟩, _, hbeat, by decide +kernel, rfl, hfree _ hbeat (.inl rfl)⟩

end Scene

end Rollmark
