/-
Settings written in YAML, as one mapping from their names to scalars. A quoted scalar is always a
text; a plain one is what its field needs.
-/
import Rollmark.Settings
import Rollmark.Yaml.Mapping

namespace Rollmark.Settings

/-- A seed, or none. -/
def seedOf? (s : Yaml.Scalar) : Option (Option UInt64) :=
  if s.isNull then some none
  else (s.natural?.filter (· ≤ maxSeed)).map fun n => some n.toUInt64

/-- Settings with one entry applied. -/
def withEntry? (s : Settings) (key value : Yaml.Scalar) : Option Settings :=
  match key.text with
  | "color_modifiers" => value.flag?.map fun b => { s with colorModifiers := b }
  | "basic_set_pdf" => (BasicSet.ofText? value.text).map fun b => { s with basicSet := b }
  | "default_modifier_desc" => some { s with defaultDesc := value.text }
  | "seed" => (seedOf? value).map fun seed => { s with seed := seed }
  | _ => none

/-- Reads the YAML text of settings. No setting may be given twice. -/
def readYaml? (text : String) : Option Settings := do
  let entries ← Yaml.mapping? text
  if ((entries.map (·.1.text)).eraseDups).length ≠ entries.length then none
  entries.foldlM (fun s (key, value) => s.withEntry? key value) {}

end Rollmark.Settings
