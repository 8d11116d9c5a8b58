/-
Intents: what an action comes down to for the character at hand. A check gets its target here; no
dice are rolled yet. A modifier typed into the span of a check goes with the request as a one-shot
modifier and never enters the bucket.
-/
import Rollmark.Bucket
import Rollmark.Formula
import Rollmark.Settings
import Rollmark.Vocabulary

namespace Rollmark

/-- Who sees a result. -/
inductive Visibility where
  | everyone
  | roller
  | gameMaster
deriving DecidableEq

/-- The word for who sees a result. -/
def Visibility.text : Visibility → String
  | .everyone => "Public"
  | .roller => "Whisper"
  | .gameMaster => "Blind"

/-- Dice to be rolled. -/
structure RollRequest where
  formula : String
  /-- What the roll is compared with; modifiers change it. Without one they change the total. -/
  target : Option Amount
  label : String
  /-- A second line under the label. -/
  note : Option String
  /-- One-shot modifiers, which count before those of the bucket. -/
  oneShot : List Modifier
  rof : Option Amount
  rcl : Option Amount
  visibility : Visibility
deriving DecidableEq

namespace RollRequest

/-- A roll without a target. -/
def ofFormula (formula label : String) : RollRequest :=
  ⟨formula, none, label, none, [], none, none, .everyone⟩

/-- Three dice against a target. -/
def check (target : Amount) (label : String) : RollRequest :=
  { ofFormula "3d6" label with target := some target }

/-- Adds the modifier that was typed into the span, if there is one. -/
def withTyped (r : RollRequest) (amount : Option Amount) (desc : String) : RollRequest :=
  match amount with
  | some a => { r with oneShot := r.oneShot ++ [⟨a, desc⟩] }
  | none => r

end RollRequest

/-- Damage to be rolled by someone else. -/
structure DamageRequest where
  actor : Option String
  formula : String
  damageType : String
  /-- How a derived formula is shown. -/
  label : Option String
deriving DecidableEq

def DamageRequest.toJson (r : DamageRequest) : Json :=
  .object [("actor", .ofOption .string r.actor), ("formula", .string r.formula),
    ("damage_type", .string r.damageType), ("label", .ofOption .string r.label)]

/-- What an action comes down to. -/
inductive Intent where
  | roll (request : RollRequest)
  | damage (request : DamageRequest)
  | modifier (m : Modifier)
  | reference (r : Reference)
  /-- The target is not positive, or there is none. -/
  | nothing
deriving DecidableEq

namespace Intent

/-- A check, if its target is positive. -/
def check (target : Option Amount) (request : Amount → RollRequest) : Intent :=
  match target with
  | some t => if 0 < t then .roll (request t) else .nothing
  | none => .nothing

/-- The note of an attribute check: the description, unless it belongs to a typed modifier. -/
def attributeNote (amount : Option Amount) (desc : String) : Option String :=
  if amount.isNone && !desc.isEmpty then some desc else none

/-- A check against block or parry. The value of the sheet itself comes first, unless a weapon is
named; without a positive one it is the first weapon that has a value and whose name begins with
the filter. -/
def defense (actor : Sheet) (desc : String) (weapon : Option String) (path : String) :
    Except Error Intent :=
  let basic := if weapon.isNone then actor.basicDefense? path else none
  let (target, label) :=
    if basic.any fun t => 0 < t then (basic, desc)
    else
      match actor.meleeDefenses.find? fun d =>
        (d.value? path).isSome
          && weapon.all fun w => (Text.dropLead? w.toList d.name.toList).isSome with
      | some d => (d.value? path, desc ++ " for " ++ d.name)
      | none => (basic, desc)
  match target with
  | some t =>
    if t = 0 then .error (.noDefense desc)
    else .ok (check (some t) fun t => .check t label)
  | none => .error (.noDefense desc)

/-- What an action that needs a character comes down to for that character. -/
def ofActor (actor : Sheet) : Action.Kind → Except Error Intent
  | .attributeCheck _ path amount desc target =>
    .ok (check (target.or (actor.valueAt? path)) fun t =>
      let request := (RollRequest.check t ("Roll vs " ++ attributeName path)).withTyped amount desc
      { request with note := attributeNote amount desc })
  | .derivedDamage base formula damageType =>
    .ok (.damage ⟨some actor.name, actor.derived base ++ formula, damageType,
      some (base.text ++ formula)⟩)
  | .derivedRoll base formula desc =>
    .ok (.roll (.ofFormula (Formula.withSixes (actor.derived base ++ formula))
      (Text.trimmedEnd ("Rolling " ++ base.text ++ formula ++ " " ++ desc))))
  | .skill name amount desc =>
    match actor.findSkill? name with
    | none => .error (.skillNotFound name actor.name)
    | some found => .ok (check found.level fun t =>
        (RollRequest.check t found.name).withTyped amount desc)
  | .attack name amount desc =>
    match actor.findAttack? name with
    | none => .error (.attackNotFound name actor.name)
    | some found => .ok (check found.level fun t =>
        { (RollRequest.check t found.name).withTyped amount desc with
          note := found.mode, rof := found.rof, rcl := found.rcl })
  | .dodge => .ok (check (some actor.currentDodge) fun t => .check t "Dodge")
  | .sense path desc => .ok (check (actor.sense? path) fun t => .check t desc)
  | .defense desc weapon path => defense actor desc weapon path
  | _ => .ok .nothing

/-- What an action comes down to before anyone says who sees it. -/
def ofKind (settings : Settings) (actor : Option Sheet) : Action.Kind → Except Error Intent
  | .modifier amount desc => .ok (.modifier ⟨amount, desc⟩)
  | .reference link =>
    match Reference.ofLink settings.basicSet link with
    | .ok r => .ok (.reference r)
    | .error e => .error e
  | .selfControl target desc =>
    .ok (check (some target) fun t => .check t ("Self Control " ++ desc))
  | .roll formula desc =>
    .ok (.roll (.ofFormula (Formula.withSixes formula)
      (Text.trimmedEnd ("Rolling " ++ formula ++ " " ++ desc))))
  | .damage formula damageType =>
    .ok (.damage ⟨actor.map (·.name), formula, damageType, none⟩)
  | kind =>
    match actor with
    | none => .error .noActor
    | some sheet => ofActor sheet kind

/-- Who sees the result of an action when nobody asks for anything else. -/
def visibility (a : Action) : Visibility := if a.blind then .gameMaster else .everyone

/-- A roll with its visibility; other intents have none. -/
def withVisibility (v : Visibility) : Intent → Intent
  | .roll request => .roll { request with visibility := v }
  | intent => intent

end Intent

/-- What an action comes down to, and the bucket with the modifier of a modifier action in it. -/
def dispatch (settings : Settings) (actor : Option Sheet) (a : Action) (bucket : Bucket) :
    Except Error Intent × Bucket :=
  match Intent.ofKind settings actor a.kind with
  | .error e => (.error e, bucket)
  | .ok (.modifier m) => (.ok (.modifier m), bucket.add m)
  | .ok intent => (.ok (intent.withVisibility (Intent.visibility a)), bucket)

end Rollmark
