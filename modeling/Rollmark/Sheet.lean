/-
Character sheets: scores, fatigue, skills, weapons, encumbrance and senses. The numbers of a weapon
are texts such as `9F` or `No`, of which only a leading number counts.
-/
import Rollmark.Action

namespace Rollmark

/-- A skill or a spell. -/
structure Skill where
  name : String
  level : Amount
deriving DecidableEq

/-- An attack with a weapon in hand. -/
structure MeleeAttack where
  name : String
  mode : String
  level : String
  damage : String
  parry : String
  block : String
deriving DecidableEq

/-- An attack from afar. -/
structure RangedAttack where
  name : String
  mode : String
  level : String
  damage : String
  rof : String
  rcl : String
deriving DecidableEq

/-- A level of encumbrance with its dodge and move. -/
structure Encumbrance where
  level : UInt8
  dodge : Amount
  move : Amount
  current : Bool
deriving DecidableEq

/-- Points that are spent and regained. -/
structure Pool where
  value : Amount
  max : Amount
deriving DecidableEq

/-- A character sheet. -/
structure Sheet where
  name : String := ""
  attributes : List (String × Amount) := []
  fatigue : Pool := ⟨0, 0⟩
  swing : String := ""
  thrust : String := ""
  skills : List Skill := []
  spells : List Skill := []
  melee : List MeleeAttack := []
  ranged : List RangedAttack := []
  encumbrance : List Encumbrance := []
  senses : List (String × Amount) := []
  parry : Option Amount := none
  block : Option Amount := none
deriving DecidableEq

namespace Sheet

instance : Inhabited Sheet := ⟨{}⟩

/-- Takes fatigue points away, down to the least amount. -/
def spendFatigue (s : Sheet) (points : Amount) : Sheet :=
  { s with fatigue := { s.fatigue with value := s.fatigue.value - points } }

/-- The dodge at the current level of encumbrance, zero when none is current. -/
def currentDodge (s : Sheet) : Amount :=
  match s.encumbrance.find? (·.current) with
  | some e => e.dodge
  | none => 0

/-- The swing or the thrust damage. -/
def derived (s : Sheet) : DerivedBase → String
  | .swing => s.swing
  | .thrust => s.thrust

end Sheet

end Rollmark
