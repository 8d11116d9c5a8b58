/-
What an activation does: one case for each way in which it can end, with the session and the
character that it leaves behind. A roll is the last thing that can fail, and it fails before it
touches anything.
-/
import Rollmark.Proofs.Report
import Rollmark.Session

namespace Rollmark

/-! ## What was done -/

namespace Activation

def report? : Activation → Option Report
  | .rolled report => some report
  | _ => none

def damage? : Activation → Option DamageRequest
  | .damage request => some request
  | _ => none

def reference? : Activation → Option Reference
  | .reference r => some r
  | _ => none

end Activation

namespace Session

/-! ## Requests -/

/-- Whoever asks for something changes only who sees the result. -/
theorem asked_eq (visibility : Option Visibility) (request : RollRequest) :
    ∃ v, asked visibility request = { request with visibility := v } := by
  cases visibility with
  | none => exact ⟨request.visibility, rfl⟩
  | some v =>
    unfold asked
    dsimp only
    split
    · exact ⟨request.visibility, rfl⟩
    · exact ⟨v, rfl⟩

/-- The request of a roll as it is resolved: with the visibility of the action, or the one that was
asked for. -/
def askedOf (a : Action) (visibility : Option Visibility) (request : RollRequest) : RollRequest :=
  asked visibility { request with visibility := Intent.visibility a }

theorem askedOf_eq (a : Action) (visibility : Option Visibility) (request : RollRequest) :
    ∃ v, askedOf a visibility request = { request with visibility := v } :=
  asked_eq visibility { request with visibility := Intent.visibility a }

@[simp] theorem askedOf_oneShot (a : Action) (visibility : Option Visibility) (request : RollRequest) :
    (askedOf a visibility request).oneShot = request.oneShot := by
  obtain ⟨v, h⟩ := askedOf_eq a visibility request
  rw [h]

@[simp] theorem askedOf_formula (a : Action) (visibility : Option Visibility) (request : RollRequest) :
    (askedOf a visibility request).formula = request.formula := by
  obtain ⟨v, h⟩ := askedOf_eq a visibility request
  rw [h]

/-! ## Activations -/

/-- A session with one more report on its table. -/
def postOutcome (s : Session) (report : Report) : Session :=
  { s with table := { s.table with outcomes := s.table.outcomes ++ [report] } }

/-- A session with one more request for damage on its table. -/
def postDamage (s : Session) (request : DamageRequest) : Session :=
  { s with table := { s.table with damage := s.table.damage ++ [request] } }

/-- A session with one more page on its table. -/
def postReference (s : Session) (r : Reference) : Session :=
  { s with table := { s.table with references := s.table.references ++ [r] } }

/-- The ways in which an activation can end. -/
inductive Effect (s : Session) (a : Action) (actor : Option Sheet) (visibility : Option Visibility) :
    Turn → Prop where
  /-- The character, the sheet or the action does not allow it. -/
  | refused {e : Error} (h : Intent.ofKind s.settings actor a.kind = .error e) :
    Effect s a actor visibility ⟨.error e, s, actor⟩
  /-- The dice cannot be read. -/
  | unreadable {request : RollRequest} (h : Intent.ofKind s.settings actor a.kind = .ok (.roll request))
      (hr : Formula.read? (askedOf a visibility request).formula = none) :
    Effect s a actor visibility ⟨.error (.invalidFormula (askedOf a visibility request).formula), s, actor⟩
  | rolled {request : RollRequest} {report : Report} {dice : Dice}
      (h : Intent.ofKind s.settings actor a.kind = .ok (.roll request))
      (hr : resolve (askedOf a visibility request) s.bucket s.dice = (.ok report, .empty, dice)) :
    Effect s a actor visibility ⟨.ok (.rolled report),
      ({ s with bucket := .empty, dice := dice } : Session).persist.postOutcome report,
      charge report actor⟩
  | damage {request : DamageRequest} (h : Intent.ofKind s.settings actor a.kind = .ok (.damage request)) :
    Effect s a actor visibility ⟨.ok (.damage request), s.postDamage request, actor⟩
  | modifier {m : Modifier} (h : Intent.ofKind s.settings actor a.kind = .ok (.modifier m)) :
    Effect s a actor visibility ⟨.ok (.modifierAdded m), s.addModifier m, actor⟩
  | reference {r : Reference} (h : Intent.ofKind s.settings actor a.kind = .ok (.reference r)) :
    Effect s a actor visibility ⟨.ok (.reference r), s.postReference r, actor⟩
  | nothing (h : Intent.ofKind s.settings actor a.kind = .ok .nothing) :
    Effect s a actor visibility ⟨.ok .nothing, s, actor⟩

/-- Every activation ends in one of these ways. -/
theorem activate_effect (s : Session) (a : Action) (actor : Option Sheet) (visibility : Option Visibility) :
    Effect s a actor visibility (s.activate a actor visibility) := by
  unfold activate dispatch
  cases h : Intent.ofKind s.settings actor a.kind with
  | error e => exact .refused h
  | ok intent =>
    cases intent with
    | damage request => exact .damage h
    | modifier m => exact .modifier h
    | reference r => exact .reference h
    | nothing => exact .nothing h
    | roll request =>
      show Effect s a actor visibility (s.roll actor (askedOf a visibility request))
      rcases hr : resolve (askedOf a visibility request) s.bucket s.dice with ⟨resolved, bucket, dice⟩
      unfold roll
      rw [hr]
      cases resolved with
      | error e =>
        -- bucket and dice were handed over, and they come back as they were
        obtain ⟨hread, rfl, rfl, rfl⟩ := resolve_error hr
        exact .unreadable h hread
      | ok report =>
        obtain ⟨formula, -, rfl, -⟩ := resolve_ok hr
        exact .rolled h hr

section Known

variable {s : Session} {a : Action} {actor : Option Sheet}

theorem activate_of_roll {request : RollRequest}
    (h : Intent.ofKind s.settings actor a.kind = .ok (.roll request)) (visibility : Option Visibility) :
    s.activate a actor visibility = s.roll actor (askedOf a visibility request) := by
  unfold activate dispatch
  rw [h]
  rfl

theorem activate_of_damage {request : DamageRequest}
    (h : Intent.ofKind s.settings actor a.kind = .ok (.damage request)) (visibility : Option Visibility) :
    s.activate a actor visibility = ⟨.ok (.damage request), s.postDamage request, actor⟩ := by
  unfold activate dispatch
  rw [h]
  rfl

/-- A roll whose formula can be read does not fail. -/
theorem roll_of_read {request : RollRequest} {formula : Formula}
    (h : Formula.read? request.formula = some formula) (s : Session) (actor : Option Sheet) :
    let rolled := request.rolled formula (request.oneShot ++ s.bucket.entries) s.dice
    s.roll actor request = ⟨.ok (.rolled rolled.1),
      ({ s with bucket := .empty, dice := rolled.2 } : Session).persist.postOutcome rolled.1,
      charge rolled.1 actor⟩ := by
  unfold roll
  rw [resolve_of_read h]
  rfl

/-- What an activation that rolls has resolved, and what it leaves behind. -/
theorem activate_of_rolled {visibility : Option Visibility} {report : Report}
    (h : (s.activate a actor visibility).result = .ok (.rolled report)) :
    ∃ request dice, Intent.ofKind s.settings actor a.kind = .ok (.roll request) ∧
      resolve (askedOf a visibility request) s.bucket s.dice = (.ok report, .empty, dice) ∧
      s.activate a actor visibility = ⟨.ok (.rolled report),
        ({ s with bucket := .empty, dice := dice } : Session).persist.postOutcome report,
        charge report actor⟩ := by
  have he := s.activate_effect a actor visibility
  generalize s.activate a actor visibility = turn at he h ⊢
  cases he with
  | rolled hintent hr =>
    cases h
    exact ⟨_, _, hintent, hr, rfl⟩
  | refused | unreadable | damage | modifier | reference | nothing => cases h

/-- An activation that rolls has a request for it whose formula can be read. -/
theorem request_of_rolled {visibility : Option Visibility} {report : Report}
    (h : (s.activate a actor visibility).result = .ok (.rolled report)) :
    ∃ request formula, Intent.ofKind s.settings actor a.kind = .ok (.roll request) ∧
      Formula.read? request.formula = some formula := by
  obtain ⟨request, dice, hintent, hr, -⟩ := activate_of_rolled h
  obtain ⟨formula, hread, -, -⟩ := resolve_ok hr
  rw [askedOf_formula] at hread
  exact ⟨request, formula, hintent, hread⟩

/-- A roll charges the character what it costs. -/
theorem actor_of_rolled {visibility : Option Visibility} {report : Report}
    (h : (s.activate a actor visibility).result = .ok (.rolled report)) :
    (s.activate a actor visibility).actor = charge report actor := by
  obtain ⟨_, _, -, -, hturn⟩ := activate_of_rolled h
  rw [hturn]

end Known

/-- The action that a text parses to in a session. -/
def parsed? (s : Session) (text : String) : Option Action :=
  (Span.parse text s.settings.defaultDesc s.settings.colorModifiers).action

/-- A text that parses to an action is activated like that action. -/
theorem activateText_of_some {s : Session} {text : String} {a : Action} (h : s.parsed? text = some a)
    (actor : Option Sheet) (visibility : Option Visibility) :
    s.activateText text actor visibility = s.activate a actor visibility := by
  unfold parsed? at h
  unfold activateText
  rw [h]

/-- A text that parses to no action does nothing. -/
theorem activateText_of_none {s : Session} {text : String} (h : s.parsed? text = none)
    (actor : Option Sheet) (visibility : Option Visibility) :
    s.activateText text actor visibility = ⟨.ok .unrecognized, s, actor⟩ := by
  unfold parsed? at h
  unfold activateText
  rw [h]

/-! ## What stays as it was -/

/-- Taking an entry out of the bucket leaves table and dice alone. -/
theorem removeModifier_keeps (s : Session) (index : Nat) :
    (s.removeModifier index).table = s.table ∧ (s.removeModifier index).dice = s.dice := by
  unfold removeModifier
  dsimp only
  split <;> exact ⟨rfl, rfl⟩

/-- What a turn leaves alone. One that fails or does nothing changes neither settings, dice, bucket,
store and table nor the character; a request for damage and a page are put on the table and change
nothing else. -/
def Keeps (s : Session) (actor : Option Sheet) (turn : Turn) : Prop :=
  match turn.result with
  | .error _ | .ok .nothing | .ok .unrecognized => turn.session = s ∧ turn.actor = actor
  | .ok (.damage request) => turn.session = s.postDamage request ∧ turn.actor = actor
  | .ok (.reference r) => turn.session = s.postReference r ∧ turn.actor = actor
  | .ok (.rolled _) | .ok (.modifierAdded _) => True

theorem keeps_of_effect {s : Session} {a : Action} {actor : Option Sheet}
    {visibility : Option Visibility} {turn : Turn} (h : Effect s a actor visibility turn) :
    Keeps s actor turn := by
  cases h with
  | refused | unreadable | nothing | damage | reference => exact ⟨rfl, rfl⟩
  | rolled | modifier => trivial

/-- Only a roll and a modifier change more than the table, whatever the action asks for and whoever
carries it out, in every session. -/
theorem keeps_activate (s : Session) (actor : Option Sheet) (visibility : Option Visibility) :
    (∀ a, Keeps s actor (s.activate a actor visibility)) ∧
      ∀ text, Keeps s actor (s.activateText text actor visibility) := by
  have hactivate : ∀ a, Keeps s actor (s.activate a actor visibility) := fun a =>
    keeps_of_effect (s.activate_effect a actor visibility)
  refine ⟨hactivate, fun text => ?_⟩
  cases h : s.parsed? text with
  | none =>
    rw [activateText_of_none h]
    exact ⟨rfl, rfl⟩
  | some a =>
    rw [activateText_of_some h]
    exact hactivate a

end Session

end Rollmark
