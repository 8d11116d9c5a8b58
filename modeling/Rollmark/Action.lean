/-
Actions: what a bracketed span asks for, with the text of the span and whether only the game
master sees the result.
-/
import Rollmark.Amount

namespace Rollmark

/-- The derived damage value of a sheet that a formula builds on. -/
inductive DerivedBase where
  | swing
  | thrust
deriving DecidableEq

/-- `SW` or `THR`. -/
def DerivedBase.text : DerivedBase → String
  | .swing => "SW"
  | .thrust => "THR"

/-- A derived value by its word. -/
def DerivedBase.ofText? : String → Option DerivedBase
  | "SW" => some .swing
  | "THR" => some .thrust
  | _ => none

/-- What an action does. -/
inductive Action.Kind where
  /-- Puts a modifier into the bucket. -/
  | modifier (amount : Amount) (desc : String)
  /-- Rolls against an attribute, or against a fixed target. -/
  | attributeCheck (name path : String) (amount : Option Amount) (desc : String)
      (target : Option Amount)
  /-- Rolls against a self-control number. -/
  | selfControl (target : Amount) (desc : String)
  /-- Rolls against a skill or a spell. -/
  | skill (name : String) (amount : Option Amount) (desc : String)
  /-- Rolls to hit with an attack. -/
  | attack (name : String) (amount : Option Amount) (desc : String)
  /-- Rolls dice. -/
  | roll (formula desc : String)
  /-- Asks for damage. -/
  | damage (formula damageType : String)
  /-- Rolls swing or thrust dice. -/
  | derivedRoll (base : DerivedBase) (formula desc : String)
  /-- Asks for swing or thrust damage. -/
  | derivedDamage (base : DerivedBase) (formula damageType : String)
  /-- Rolls against dodge. -/
  | dodge
  /-- Rolls against a sense or the fright check. -/
  | sense (path desc : String)
  /-- Rolls against block or parry, of the weapons whose name begins with the filter. -/
  | defense (desc : String) (weapon : Option String) (path : String)
  /-- Opens a page of a book. -/
  | reference (link : String)
deriving DecidableEq

/-- An action with the text it was read from. -/
structure Action where
  orig : String
  blind : Bool
  kind : Action.Kind
deriving DecidableEq

/-- The word for a kind of action on the wire. -/
def Action.Kind.tag : Action.Kind → String
  | .modifier .. => "modifier"
  | .attributeCheck .. => "attribute"
  | .selfControl .. => "selfcontrol"
  | .skill .. => "skill-spell"
  | .attack .. => "attack"
  | .roll .. => "roll"
  | .damage .. => "damage"
  | .derivedRoll .. => "derivedroll"
  | .derivedDamage .. => "deriveddamage"
  | .dodge => "dodge"
  | .sense .. => "mapped"
  | .defense .. => "block-parry"
  | .reference .. => "pdf"

end Rollmark
