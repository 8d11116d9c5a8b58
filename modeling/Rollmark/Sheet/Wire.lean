/-
Sheets as JSON. A sheet is written with all its fields in their order; when it is read, a missing
field takes its default and an unknown one is passed over.
-/
import Rollmark.Json.Fields
import Rollmark.Json.Printer
import Rollmark.Json.Reader
import Rollmark.Sheet

namespace Rollmark

namespace Skill

def toJson (s : Skill) : Json := .object [("name", .string s.name), ("level", .integer s.level.val)]

def ofJson? (v : Json) : Option Skill := do
  let fields ← v.fields? false ["name", "level"]
  some ⟨← fields.required "name" Json.text?, ← fields.required "level" Json.amount?⟩

end Skill

namespace MeleeAttack

def toJson (a : MeleeAttack) : Json :=
  .object [("name", .string a.name), ("mode", .string a.mode), ("level", .string a.level),
    ("damage", .string a.damage), ("parry", .string a.parry), ("block", .string a.block)]

def ofJson? (v : Json) : Option MeleeAttack := do
  let fields ← v.fields? false ["name", "mode", "level", "damage", "parry", "block"]
  let text (name : String) : Option String := fields.orElse name "" Json.text?
  some ⟨← text "name", ← text "mode", ← text "level", ← text "damage", ← text "parry",
    ← text "block"⟩

end MeleeAttack

namespace RangedAttack

def toJson (a : RangedAttack) : Json :=
  .object [("name", .string a.name), ("mode", .string a.mode), ("level", .string a.level),
    ("damage", .string a.damage), ("rof", .string a.rof), ("rcl", .string a.rcl)]

def ofJson? (v : Json) : Option RangedAttack := do
  let fields ← v.fields? false ["name", "mode", "level", "damage", "rof", "rcl"]
  let text (name : String) : Option String := fields.orElse name "" Json.text?
  some ⟨← text "name", ← text "mode", ← text "level", ← text "damage", ← text "rof",
    ← text "rcl"⟩

end RangedAttack

namespace Encumbrance

def toJson (e : Encumbrance) : Json :=
  .object [("level", .natural e.level.toNat), ("dodge", .integer e.dodge.val),
    ("move", .integer e.move.val), ("current", .bool e.current)]

def ofJson? (v : Json) : Option Encumbrance := do
  let fields ← v.fields? false ["level", "dodge", "move", "current"]
  let level ← fields.orElse "level" 0 (Json.naturalUpTo? 255)
  some ⟨level.toUInt8, ← fields.orElse "dodge" 0 Json.amount?,
    ← fields.orElse "move" 0 Json.amount?, ← fields.orElse "current" false Json.flag?⟩

end Encumbrance

namespace Pool

def toJson (p : Pool) : Json :=
  .object [("value", .integer p.value.val), ("max", .integer p.max.val)]

def ofJson? (v : Json) : Option Pool := do
  let fields ← v.fields? false ["value", "max"]
  some ⟨← fields.required "value" Json.amount?, ← fields.required "max" Json.amount?⟩

end Pool

namespace Sheet

/-- Amounts under names. -/
def tableJson (entries : List (String × Amount)) : Json :=
  .object (entries.map fun (name, a) => (name, .integer a.val))

def toJson (s : Sheet) : Json :=
  .object [("name", .string s.name), ("attributes", tableJson s.attributes),
    ("FP", s.fatigue.toJson), ("swing", .string s.swing), ("thrust", .string s.thrust),
    ("skills", .array (s.skills.map Skill.toJson)), ("spells", .array (s.spells.map Skill.toJson)),
    ("melee", .array (s.melee.map MeleeAttack.toJson)),
    ("ranged", .array (s.ranged.map RangedAttack.toJson)),
    ("encumbrance", .array (s.encumbrance.map Encumbrance.toJson)),
    ("senses", tableJson s.senses), ("parry", .ofOption (.integer ·.val) s.parry),
    ("block", .ofOption (.integer ·.val) s.block)]

/-- The names of the fields in their order. -/
def fieldNames : List String :=
  ["name", "attributes", "FP", "swing", "thrust", "skills", "spells", "melee", "ranged",
    "encumbrance", "senses", "parry", "block"]

def ofJson? (v : Json) : Option Sheet := do
  let fields ← v.fields? false fieldNames
  let name ← fields.orElse "name" "" Json.text?
  let attributes ← fields.orElse "attributes" [] (Json.table? Json.amount?)
  let fatigue ← fields.orElse "FP" ⟨0, 0⟩ Pool.ofJson?
  let swing ← fields.orElse "swing" "" Json.text?
  let thrust ← fields.orElse "thrust" "" Json.text?
  let skills ← fields.orElse "skills" [] (Json.list? Skill.ofJson?)
  let spells ← fields.orElse "spells" [] (Json.list? Skill.ofJson?)
  let melee ← fields.orElse "melee" [] (Json.list? MeleeAttack.ofJson?)
  let ranged ← fields.orElse "ranged" [] (Json.list? RangedAttack.ofJson?)
  let encumbrance ← fields.orElse "encumbrance" [] (Json.list? Encumbrance.ofJson?)
  let senses ← fields.orElse "senses" [] (Json.table? Json.amount?)
  let parry ← fields.orElse "parry" none (Json.optional? Json.amount?)
  let block ← fields.orElse "block" none (Json.optional? Json.amount?)
  some ⟨name, attributes, fatigue, swing, thrust, skills, spells, melee, ranged, encumbrance,
    senses, parry, block⟩

/-- Reads the JSON text of a sheet. -/
def read? (text : String) : Option Sheet := (Json.parse? text).bind ofJson?

end Sheet

end Rollmark
