/-
What actions come down to: dice without a target, or three dice against a positive one. A roll takes the
modifier that was typed into the span of its action, and no other, as its one-shot modifier, and only an
attack has a rate of fire. Nothing but a modifier action changes the bucket.
-/
import Rollmark.Intent

namespace Rollmark

/-! ## Kinds of actions -/

namespace Action.Kind

/-- The modifier that was typed into the span of a check, if there is one. -/
def typed : Action.Kind → List Modifier
  | .attributeCheck _ _ amount desc _ | .skill _ amount desc | .attack _ amount desc =>
    (amount.map (⟨·, desc⟩)).toList
  | _ => []

/-- Dice are rolled without a target. -/
def isOpen : Action.Kind → Bool
  | .roll .. | .derivedRoll .. => true
  | _ => false

def isAttack : Action.Kind → Bool
  | .attack .. => true
  | _ => false

end Action.Kind

/-! ## Requests -/

namespace RollRequest

/-- A typed modifier comes behind the one-shot modifiers that are there, and nothing else changes. -/
theorem withTyped_eq (r : RollRequest) (amount : Option Amount) (desc : String) :
    r.withTyped amount desc = { r with oneShot := r.oneShot ++ (amount.map (⟨·, desc⟩)).toList } := by
  cases amount with
  | none => rw [Option.map_none, Option.toList_none, List.append_nil]; rfl
  | some a => rfl

/-- A request as an action of this kind makes it: an open one has no target, and any other rolls three dice
against a positive target. -/
structure Serves (request : RollRequest) (k : Action.Kind) : Prop where
  target : request.target = none ↔ k.isOpen = true
  check : k.isOpen = false → request.formula = "3d6" ∧ ∃ t, request.target = some t ∧ 0 < t
  oneShot : request.oneShot = k.typed
  rapidFire : k.isAttack = false → request.rof = none ∧ request.rcl = none

theorem serves_ofFormula {k : Action.Kind} (hopen : k.isOpen = true) (htyped : k.typed = [])
    (formula label : String) : (ofFormula formula label).Serves k where
  target := iff_of_true rfl hopen
  check := fun hcheck => by rw [hopen] at hcheck; cases hcheck
  oneShot := htyped.symm
  rapidFire := fun _ => ⟨rfl, rfl⟩

/-- Who sees the result has no part in it. -/
theorem Serves.withVisibility {request : RollRequest} {k : Action.Kind} (h : request.Serves k)
    (v : Visibility) : { request with visibility := v }.Serves k :=
  ⟨h.target, h.check, h.oneShot, h.rapidFire⟩

end RollRequest

/-! ## Intents -/

namespace Intent

/-- A check rolls against a positive target, and without one it does nothing. -/
theorem check_cases (target : Option Amount) (make : Amount → RollRequest) :
    (∃ t, target = some t ∧ 0 < t ∧ check target make = .roll (make t)) ∨
      check target make = .nothing := by
  cases target with
  | none => exact .inr rfl
  | some t =>
    rw [check]
    by_cases ht : 0 < t
    · exact .inl ⟨t, rfl, ht, if_pos ht⟩
    · exact .inr (if_neg ht)

/-- A check that rolls has a positive target. -/
theorem check_eq_roll {target : Option Amount} {make : Amount → RollRequest} {request : RollRequest}
    (h : check target make = .roll request) : ∃ t, target = some t ∧ 0 < t ∧ request = make t := by
  rcases check_cases target make with ⟨t, htarget, hpos, hroll⟩ | hnothing
  · rw [hroll] at h
    cases h
    exact ⟨t, htarget, hpos, rfl⟩
  · rw [hnothing] at h
    cases h

/-- What an action of this kind may come down to. Its formula is not looked at yet. -/
def Possible (k : Action.Kind) : Except Error Intent → Prop
  | .error e => ∀ text, e ≠ .invalidFormula text
  | .ok (.roll request) => request.Serves k
  | .ok (.modifier m) => k = .modifier m.amount m.desc
  | .ok _ => True

theorem possible_check {k : Action.Kind} {make : Amount → RollRequest} (hopen : k.isOpen = false)
    (hmake : ∀ t, (make t).target = some t ∧ (make t).formula = "3d6" ∧ (make t).oneShot = k.typed ∧
      (k.isAttack = false → (make t).rof = none ∧ (make t).rcl = none)) (target : Option Amount) :
    Possible k (.ok (check target make)) := by
  rcases check_cases target make with ⟨t, -, hpos, hroll⟩ | hnothing
  · obtain ⟨htarget, hformula, honeShot, hrapid⟩ := hmake t
    rw [hroll]
    refine ⟨?_, fun _ => ⟨hformula, t, htarget, hpos⟩, honeShot, hrapid⟩
    rw [htarget, hopen]
    exact iff_of_false (by rintro ⟨⟩) (by rintro ⟨⟩)
  · rw [hnothing]
    trivial

/-- A check without a typed modifier. -/
theorem possible_plain {k : Action.Kind} (hopen : k.isOpen = false) (htyped : k.typed = [])
    (target : Option Amount) (label : String) : Possible k (.ok (check target fun t => .check t label)) :=
  possible_check hopen (fun _ => ⟨rfl, rfl, htyped.symm, fun _ => ⟨rfl, rfl⟩⟩) target

theorem possible_defense (actor : Sheet) (desc : String) (weapon : Option String) (path : String) :
    Possible (.defense desc weapon path) (defense actor desc weapon path) := by
  unfold defense
  dsimp only
  split
  · split
    · rintro text ⟨⟩
    · exact possible_plain rfl rfl _ _
  · rintro text ⟨⟩

theorem possible_ofActor (actor : Sheet) (k : Action.Kind) : Possible k (ofActor actor k) := by
  cases k with
  | attributeCheck name path amount desc target =>
    refine possible_check rfl (fun t => ?_) _
    rw [RollRequest.withTyped_eq]
    exact ⟨rfl, rfl, rfl, fun _ => ⟨rfl, rfl⟩⟩
  | skill name amount desc =>
    rw [ofActor]
    split
    · rintro text ⟨⟩
    · refine possible_check rfl (fun t => ?_) _
      rw [RollRequest.withTyped_eq]
      exact ⟨rfl, rfl, rfl, fun _ => ⟨rfl, rfl⟩⟩
  | attack name amount desc =>
    rw [ofActor]
    split
    · rintro text ⟨⟩
    · refine possible_check rfl (fun t => ?_) _
      rw [RollRequest.withTyped_eq]
      exact ⟨rfl, rfl, rfl, by rintro ⟨⟩⟩
  | dodge => exact possible_plain rfl rfl _ _
  | sense path desc => exact possible_plain rfl rfl _ _
  | defense desc weapon path => exact possible_defense actor desc weapon path
  | derivedRoll base formula desc => exact RollRequest.serves_ofFormula rfl rfl _ _
  | _ => trivial

/-- What every action comes down to, with or without a character. -/
theorem possible_ofKind (settings : Settings) (actor : Option Sheet) (k : Action.Kind) :
    Possible k (ofKind settings actor k) := by
  cases k with
  | modifier amount desc => rfl
  | reference link =>
    rw [ofKind, Reference.ofLink]
    dsimp only
    split
    · trivial
    · rename_i e he
      split at he
      · cases he
        rintro text ⟨⟩
      · cases he
  | selfControl target desc => exact possible_plain rfl rfl _ _
  | roll formula desc => exact RollRequest.serves_ofFormula rfl rfl _ _
  | damage formula damageType => trivial
  | _ =>
    cases actor with
    | none => rintro text ⟨⟩
    | some sheet => exact possible_ofActor sheet _

section Kinds

variable {settings : Settings} {actor : Option Sheet} {k : Action.Kind}

theorem serves_ofKind {request : RollRequest} (h : ofKind settings actor k = .ok (.roll request)) :
    request.Serves k := by
  have hpossible := possible_ofKind settings actor k
  rwa [h] at hpossible

/-- What was typed into the span of an action is what its roll takes along, with or without a
character. -/
theorem oneShot_ofKind {request : RollRequest} (h : ofKind settings actor k = .ok (.roll request)) :
    request.oneShot = k.typed := (serves_ofKind h).oneShot

theorem kind_eq_modifier {m : Modifier} (h : ofKind settings actor k = .ok (.modifier m)) :
    k = .modifier m.amount m.desc := by
  have hpossible := possible_ofKind settings actor k
  rwa [h] at hpossible

/-- What an action comes down to is never refused for its formula. -/
theorem ne_invalidFormula {e : Error} (h : ofKind settings actor k = .error e) (text : String) :
    e ≠ .invalidFormula text := by
  have hpossible := possible_ofKind settings actor k
  rw [h] at hpossible
  exact hpossible text

end Kinds

end Intent

/-! ## Dispatching -/

/-- Dispatching fails where the action comes down to nothing, and leaves the bucket as it is. -/
theorem dispatch_eq_error_iff {settings : Settings} {actor : Option Sheet} {a : Action} {bucket bucket' : Bucket}
    {e : Error} :
    dispatch settings actor a bucket = (.error e, bucket') ↔
      Intent.ofKind settings actor a.kind = .error e ∧ bucket' = bucket := by
  unfold dispatch
  cases Intent.ofKind settings actor a.kind with
  | error e' => simp [eq_comm]
  | ok intent => cases intent <;> simp

/-- A check is dispatched as it is when its request has the visibility of its action. -/
theorem dispatch_check {settings : Settings} {actor : Option Sheet} {a : Action} {target : Option Amount}
    {make : Amount → RollRequest} (h : Intent.ofKind settings actor a.kind = .ok (.check target make))
    (hmake : ∀ t, { make t with visibility := Intent.visibility a } = make t) (bucket : Bucket) :
    dispatch settings actor a bucket = (.ok (.check target make), bucket) := by
  unfold dispatch
  rw [h]
  cases target with
  | none => rfl
  | some t =>
    unfold Intent.check
    by_cases ht : 0 < t
    · simp only [if_pos ht, Intent.withVisibility, hmake]
    · simp only [if_neg ht, Intent.withVisibility]

section Dispatch

variable {settings : Settings} {actor : Option Sheet} {a : Action} {bucket bucket' : Bucket}

theorem dispatch_eq_roll {request : RollRequest}
    (h : dispatch settings actor a bucket = (.ok (.roll request), bucket')) :
    request.Serves a.kind := by
  unfold dispatch at h
  split at h
  · cases h
  · cases h
  · rename_i intent hintent hkind
    cases intent with
    | roll asked =>
      cases h
      exact (Intent.serves_ofKind hkind).withVisibility _
    | _ => cases h

/-- A modifier action puts its modifier into the bucket. -/
theorem dispatch_modifier {amount : Amount} {desc : String} (h : a.kind = .modifier amount desc) :
    dispatch settings actor a bucket = (.ok (.modifier ⟨amount, desc⟩), bucket.add ⟨amount, desc⟩) := by
  unfold dispatch
  rw [h]
  rfl

/-- Any other action leaves the bucket alone. -/
theorem dispatch_snd (h : ∀ amount desc, a.kind ≠ .modifier amount desc) :
    (dispatch settings actor a bucket).2 = bucket := by
  unfold dispatch
  split
  · rfl
  · rename_i m hkind
    exact absurd (Intent.kind_eq_modifier hkind) (h _ _)
  · rfl

end Dispatch

end Rollmark
