/-
Modifiers: an amount and what it is for.
-/
import Rollmark.Json.Fields
import Rollmark.Modifier.Directive

namespace Rollmark

/-- An amount with its description. -/
structure Modifier where
  amount : Amount
  desc : String
deriving DecidableEq

namespace Modifier

/-- What the description asks for beyond the amount. -/
def directive (m : Modifier) : Directive := .ofDesc m.desc

/-- `+2 : aim`, or the signed amount alone without a description. -/
def text (m : Modifier) : String :=
  if m.desc.isEmpty then m.amount.signedText else m.amount.signedText ++ " : " ++ m.desc

/-- The sum of the amounts. -/
def total (ms : List Modifier) : Amount := Amount.sum (ms.map (·.amount))

def toJson (m : Modifier) : Json :=
  .object [("mod", .integer m.amount.val), ("desc", .string m.desc)]

def ofJson? (v : Json) : Option Modifier := do
  let fields ← v.fields? false ["mod", "desc"]
  some ⟨← fields.required "mod" Json.amount?, ← fields.required "desc" Json.text?⟩

end Modifier

end Rollmark
