/-
The bridge to other programs: each call takes a text and answers with an envelope, a JSON object
that says whether the call went well and holds the result or the notice.
-/
import Rollmark.Session
import Rollmark.Sheet.Wire
import Rollmark.Span.Link

namespace Rollmark.Bridge

/-- The envelope of a result. -/
def ok (result : Json) : Json := .object [("ok", .bool true), ("result", result)]

/-- The envelope of a notice. -/
def failed (notice : String) : Json := .object [("ok", .bool false), ("error", .string notice)]

/-- Parses a span, with or without its brackets. -/
def parse (text : String) : Json :=
  let parsed := Span.parse (Span.stripBrackets text) "" true
  ok (.object [("text", .string parsed.text), ("action", .ofOption Action.toJson parsed.action)])

/-- Shows all spans in a text. -/
def link (text : String) : Json := ok (.string (Span.link text true))

/-! ## Rolling -/

/-- What a roll is asked for with: a span, a seed, a character and the modifiers to begin with. -/
structure Config where
  span : String
  seed : UInt64
  character : Option Sheet
  modifiers : List Modifier

def Config.ofJson? (v : Json) : Option Config := do
  let fields ← v.fields? false ["otf", "seed", "character", "modifiers"]
  let span ← fields.required "otf" Json.text?
  let seed ← fields.orElse "seed" 0 (Json.naturalUpTo? Settings.maxSeed)
  let character ← fields.orElse "character" none (Json.optional? Sheet.ofJson?)
  let modifiers ← fields.orElse "modifiers" [] (Json.list? Modifier.ofJson?)
  some ⟨span, seed.toUInt64, character, modifiers⟩

/-- An activation as JSON; an unrecognized text has none. -/
def activationJson? : Activation → Option Json
  | .rolled report => some (.object [("kind", .string "roll"), ("report", report.toJson)])
  | .damage request => some (.object [("kind", .string "damage"), ("request", request.toJson)])
  | .modifierAdded m =>
    some (.object [("kind", .string "modifier"), ("mod", .integer m.amount.val),
      ("desc", .string m.desc)])
  | .reference r => some (.object [("kind", .string "reference"), ("reference", r.toJson)])
  | .nothing => some (.object [("kind", .string "none")])
  | .unrecognized => none

/-- Activates a span in a session of its own. -/
def rollWith (config : Config) : Json :=
  let fresh : Session :=
    { settings := { seed := some config.seed }, dice := Dice.ofSeed config.seed }
  let session := config.modifiers.foldl Session.addModifier fresh
  let turn := session.activateText (Span.stripBrackets config.span) config.character none
  match turn.result with
  | .error e => failed e.message
  | .ok activation =>
    match activationJson? activation with
    | none => failed ("not an OTF formula: " ++ config.span)
    | some v =>
      ok (.object [("activation", v),
        ("fp", .ofOption (fun s => .integer s.fatigue.value.val) turn.actor)])

/-- Activates a span as the JSON text of a configuration asks for. -/
def roll (config : String) : Json :=
  match (Json.parse? config).bind Config.ofJson? with
  | none => failed "invalid_config"
  | some c => rollWith c

end Rollmark.Bridge
