/-
Directives in the description of a modifier: `*Cost 1FP` charges fatigue and `*Max:9` caps the
target. Of each kind the first one in the description counts.
-/
import Rollmark.Amount
import Rollmark.Text.Scan

namespace Rollmark

/-- What a description asks for. -/
structure Directive where
  fatigueCost : Option Amount
  maxTarget : Option Amount
deriving DecidableEq

namespace Directive

/-- The digits of a cost that begins here: a star, `Cost` or `Costs`, digits and `FP`. -/
def costDigits? (cs : List Char) : Option (List Char) := do
  let rest ← Text.dropLead? ['*'] cs
  let rest ← Text.dropLead? "Cost".toList (Text.skip ' ' rest)
  let rest ← Text.dropLead? [' '] (Text.skip 's' rest)
  let (digits, rest) ← Text.digitRun? rest
  let _ ← Text.dropLead? "FP".toList (Text.skip ' ' rest)
  some digits

/-- The digits of a cap that begins here: `*Max:` and digits. -/
def maxDigits? (cs : List Char) : Option (List Char) := do
  let rest ← Text.dropLead? "*Max:".toList cs
  let (digits, _) ← Text.digitRun? (Text.skip ' ' rest)
  some digits

/-- The directives in a description. -/
def ofDesc (desc : String) : Directive :=
  ⟨(Text.firstFound costDigits? desc.toList).bind Amount.read?,
    (Text.firstFound maxDigits? desc.toList).bind Amount.read?⟩

/-- Nothing is asked for. -/
def isEmpty (d : Directive) : Bool := d.fatigueCost.isNone && d.maxTarget.isNone

end Directive

end Rollmark
