/-
The fixed words of the game: attributes, damage types and the senses with the fright check.
-/
import Rollmark.Text.Blank
import Rollmark.Text.Scan

namespace Rollmark

/-! ## Attributes -/

/-- Where a sheet keeps the attribute of this name. -/
def attributePath? : String → Option String
  | "ST" => some "attributes.ST.value"
  | "DX" => some "attributes.DX.value"
  | "IQ" => some "attributes.IQ.value"
  | "HT" => some "attributes.HT.value"
  | "WILL" | "Will" => some "attributes.WILL.value"
  | "PER" | "Per" => some "attributes.PER.value"
  | _ => none

/-- The short name of an attribute: its path without `attributes.` and `.value`, or the whole path
when it does not have both. -/
def attributeName (path : String) : String :=
  match (Text.dropLead? "attributes.".toList path.toList).bind
      (Text.dropEnding? ".value".toList) with
  | some name => String.ofList name
  | none => path

/-! ## Damage types -/

/-- How much of the damage that gets through becomes injury. -/
inductive WoundFactor where
  | half
  | one
  | oneAndHalf
  | two
deriving DecidableEq

def WoundFactor.text : WoundFactor → String
  | .half => "0.5"
  | .one => "1"
  | .oneAndHalf => "1.5"
  | .two => "2"

/-- A damage type: its wound factor and its name, which may be kept from view. -/
structure Wound where
  factor : WoundFactor
  label : String
  hidden : Bool := false
deriving DecidableEq

/-- The damage type of a keyword. -/
def wound? : String → Option Wound
  | "burn" => some ⟨.one, "Burning", false⟩
  | "cor" => some ⟨.one, "Corrosive", false⟩
  | "cr" => some ⟨.one, "Crushing", false⟩
  | "cut" => some ⟨.oneAndHalf, "Cutting", false⟩
  | "fat" => some ⟨.one, "Fatigue", false⟩
  | "imp" => some ⟨.two, "Impaling", false⟩
  | "pi-" => some ⟨.half, "Small Piercing", false⟩
  | "pi" => some ⟨.one, "Piercing", false⟩
  | "pi+" => some ⟨.oneAndHalf, "Large Piercing", false⟩
  | "pi++" => some ⟨.two, "Huge Piercing", false⟩
  | "tox" => some ⟨.one, "Toxic", false⟩
  | "dmg" => some ⟨.one, "Damage", true⟩
  | _ => none

/-- The keyword of a damage type. -/
def isDamageType (word : String) : Bool := (wound? word).isSome

/-- The keyword for a damage type by its keyword or long name, in any case and with blanks around
it. The names are ASCII, and no other letter has one of theirs for its lower case. -/
def damageKeyword? (name : String) : Option String :=
  match String.ofList ((Text.trim name.toList).map Char.toLower) with
  | "burn" | "burning" => some "burn"
  | "cor" | "corrosion" | "corrosive" => some "cor"
  | "cr" | "crush" | "crushing" => some "cr"
  | "cut" | "cutting" => some "cut"
  | "fat" | "fatigue" => some "fat"
  | "imp" | "impaling" => some "imp"
  | "pi-" | "small piercing" => some "pi-"
  | "pi" | "piercing" => some "pi"
  | "pi+" | "large piercing" => some "pi+"
  | "pi++" | "huge piercing" => some "pi++"
  | "tox" | "toxic" => some "tox"
  | _ => none

/-! ## Senses -/

/-- The sense, or the fright check, that a span names. -/
def sense? : String → Option String
  | "Vision" | "VISION" => some "vision"
  | "Hearing" | "HEARING" => some "hearing"
  | "Touch" | "TOUCH" => some "touch"
  | "Taste" | "TASTE" | "Smell" | "SMELL" | "Taste Smell" | "TASTE SMELL" | "TASTESMELL" =>
    some "tastesmell"
  | "Frightcheck" | "FRIGHTCHECK" | "Fright check" | "Fright Check" => some "frightcheck"
  | _ => none

end Rollmark
