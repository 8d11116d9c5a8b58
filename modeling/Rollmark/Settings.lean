/-
Settings: how modifiers are shown, how the basic set is filed, what describes a bare modifier, and
the seed of the dice. A missing setting takes its default and an unknown one is refused.
-/
import Rollmark.Json.Fields
import Rollmark.Json.Reader
import Rollmark.Reference

namespace Rollmark

/-- The settings of a session. -/
structure Settings where
  /-- Positive and negative modifiers are shown in classes of their own. -/
  colorModifiers : Bool := true
  basicSet : BasicSet := .combined
  /-- Describes a modifier that has no description of its own. -/
  defaultDesc : String := ""
  seed : Option UInt64 := none
deriving DecidableEq

/-- A basic set by its word. -/
def BasicSet.ofText? : String → Option BasicSet
  | "Combined" => some .combined
  | "Separate" => some .separate
  | _ => none

/-- The word for a basic set. -/
def BasicSet.text : BasicSet → String
  | .combined => "Combined"
  | .separate => "Separate"

/-- A basic set: its word, or an object with nothing under its word. -/
def BasicSet.ofJson? : Json → Option BasicSet
  | .string s => ofText? s
  | .object [(s, .null)] => ofText? s
  | _ => none

namespace Settings

/-- The greatest seed. -/
def maxSeed : Nat := 18446744073709551615

/-- The names of the settings in their order. -/
def fieldNames : List String :=
  ["color_modifiers", "basic_set_pdf", "default_modifier_desc", "seed"]

def ofJson? (v : Json) : Option Settings := do
  let fields ← v.fields? true fieldNames
  let colorModifiers ← fields.orElse "color_modifiers" true Json.flag?
  let basicSet ← fields.orElse "basic_set_pdf" .combined BasicSet.ofJson?
  let defaultDesc ← fields.orElse "default_modifier_desc" "" Json.text?
  let seed ← fields.orElse "seed" none (Json.optional? (Json.naturalUpTo? maxSeed))
  some ⟨colorModifiers, basicSet, defaultDesc, seed.map Nat.toUInt64⟩

/-- Reads the JSON text of settings. -/
def readJson? (text : String) : Option Settings := (Json.parse? text).bind ofJson?

end Settings

end Rollmark
