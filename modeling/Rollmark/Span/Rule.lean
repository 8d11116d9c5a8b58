/-
The rules that recognize the content of a bracketed span. A rule either recognizes a whole text,
and then says what the action does and how the span is shown, or it does not; none can fail.
-/
import Rollmark.Action
import Rollmark.Formula
import Rollmark.Vocabulary

namespace Rollmark.Span

/-- The content of a span without the mark for blind rolls. -/
structure Body where
  chars : List Char
  blind : Bool
  /-- Describes a modifier that has no description of its own. -/
  defaultDesc : String

/-- How a span is shown. -/
inductive Look where
  | modifier (positive : Bool)
  /-- A text with a label before it inside the span and a comment after the span. -/
  | link (text : List Char) (label : String) (comment : List Char)
  | page (link : List Char)

/-- What a rule recognized. -/
structure Recognized where
  kind : Action.Kind
  look : Look

/-- A rule with its name. -/
structure Rule where
  name : String
  recognize : Body → Option Recognized

/-- A span that shows its whole content. -/
def shown (body : Body) (kind : Action.Kind) : Recognized := ⟨kind, .link body.chars "" []⟩

/-- An optional signed number in front of a text, and what stands behind it. A number that is
beyond the amounts, or not in the digits `0` to `9`, makes the text no match. -/
def optionalAmount? (cs : List Char) : Option (Option Amount × List Char) :=
  match Text.signedRun? cs with
  | none => some (none, cs)
  | some (run, rest) => (Amount.read? run).map fun a => (some a, rest)

/-- The rest of a text within its line, trimmed. -/
def lineDesc? (cs : List Char) : Option String :=
  if Text.isOneLine cs then some (String.ofList (Text.trim cs)) else none

/-! ## Modifiers -/

/-- A signed number and its description: `+2 aim`. Modifiers are never blind. -/
def modifier (body : Body) : Option Recognized := do
  if body.blind then none
  let (run, rest) ← Text.signedRun? body.chars
  let amount ← Amount.read? run
  let desc := Text.trim rest
  some ⟨.modifier amount (if desc.isEmpty then body.defaultDesc else String.ofList desc),
    .modifier (run.head? == some '+')⟩

/-! ## Attributes -/

/-- A character of a word. -/
def isWordChar (c : Char) : Bool := c.isAlphanum || c == '_'

/-- An attribute, an optional signed number and a description: `ST-1 to lift`. -/
def attributeCheck (body : Body) : Option Recognized := do
  let name := String.ofList (body.chars.takeWhile isWordChar)
  let path ← attributePath? name
  let (amount, rest) ← optionalAmount? (body.chars.dropWhile isWordChar)
  let desc ← lineDesc? rest
  some (shown body (.attributeCheck name path amount desc none))

/-- An attribute with a target of its own: `DX12`. -/
def targetedAttribute (body : Body) : Option Recognized := do
  let name := String.ofList (body.chars.takeWhile Char.isAlpha)
  let path ← attributePath? name
  let (run, rest) ← Text.digitRun? (body.chars.dropWhile Char.isAlpha)
  let desc ← lineDesc? rest
  let target ← Amount.read? run
  if target = 0 then none
  some (shown body (.attributeCheck name path none desc (some target)))

/-- A self-control number and a description: `CR: 12 bad temper`. -/
def selfControl (body : Body) : Option Recognized := do
  let rest ← Text.dropLead? "CR:".toList body.chars
  let (run, rest) ← Text.digitRun? (Text.trim rest)
  let desc ← lineDesc? rest
  let target ← Amount.read? run
  some (shown body (.selfControl target desc))

/-! ## Dice -/

/-- The parts of typed dice, each as it is written and empty when it is missing. -/
structure TypedDice where
  count : List Char
  adds : List Char
  multiplier : List Char
  divisor : List Char
  mark : List Char
  trailing : List Char

/-- An optional signed number as it is written, and what stands behind it. -/
def optionalRun (cs : List Char) : List Char × List Char := (Text.signedRun? cs).getD ([], cs)

/-- An optional multiplier as it is written, and what stands behind it. -/
def optionalMultiplier : List Char → List Char × List Char
  | [] => ([], [])
  | c :: rest =>
    match if Formula.isTimes c then Text.digitRun? rest else none with
    | some (ds, rest') => (c :: ds, rest')
    | none => ([], c :: rest)

/-- An optional armor divisor as it is written, and what stands behind it. -/
def optionalDivisor (cs : List Char) : List Char × List Char :=
  match Formula.divisor? cs with
  | some (some d, rest) => ('(' :: d.toList ++ [')'], rest)
  | _ => ([], cs)

/-- An optional mark for totals of at least one, and what stands behind it. -/
def optionalMark : List Char → List Char × List Char
  | '!' :: rest => (['!'], rest)
  | cs => ([], cs)

/-- Takes typed dice apart. -/
def typedDice? (cs : List Char) : Option TypedDice := do
  let (count, rest) ← Text.digitRun? cs
  let rest ← Text.dropLead? ['d'] rest
  let (adds, rest) := optionalRun (Text.skip '6' rest)
  let (multiplier, rest) := optionalMultiplier rest
  let (divisor, rest) := optionalDivisor (Text.skip ' ' rest)
  let (mark, rest) := optionalMark rest
  let rest := Text.skip ' ' rest
  if !Text.isOneLine rest then none
  some ⟨count, adds, multiplier, divisor, mark, Text.trim rest⟩

/-- A multiplier with a star before it. -/
def starred : List Char → List Char
  | [] => []
  | _ :: digits => '*' :: digits

/-- Dice with adds and so on: `3d+1 cut` asks for damage when a damage type ends the text, and
anything else rolls; only damage keeps the armor divisor. -/
def dice (body : Body) : Option Recognized := do
  let typed ← typedDice? body.chars
  let trailing := String.ofList typed.trailing
  let front := typed.count ++ ['d'] ++ typed.adds
  if isDamageType trailing then
    some (shown body (.damage
      (String.ofList (front ++ typed.multiplier ++ typed.divisor ++ typed.mark)) trailing))
  else
    some (shown body (.roll
      (String.ofList (front ++ starred typed.multiplier ++ typed.mark)) trailing))

/-- Swing or thrust in front of a text, and what stands behind it. -/
def derivedBase? (cs : List Char) : Option (DerivedBase × List Char) :=
  match Text.dropLead? "SW".toList cs with
  | some rest => some (.swing, rest)
  | none => (Text.dropLead? "THR".toList cs).map fun rest => (.thrust, rest)

/-- Swing or thrust with an optional signed number: `SW+1 cut`. -/
def derived (body : Body) : Option Recognized := do
  let (base, rest) ← derivedBase? body.chars
  let (adds, rest) := optionalRun rest
  let (mark, rest) := optionalMark rest
  if !(rest.isEmpty || rest.head? == some ' ') then none
  let trailing ← lineDesc? rest
  let formula := String.ofList (adds ++ mark)
  if isDamageType trailing then some (shown body (.derivedDamage base formula trailing))
  else some (shown body (.derivedRoll base formula trailing))

/-! ## Pages -/

/-- A page reference: `PDF:B102`. -/
def page (body : Body) : Option Recognized := do
  let rest ← Text.dropLead? "PDF:".toList body.chars
  let link := rest.dropWhile (· == ' ')
  some ⟨.reference (String.ofList link), .page link⟩

/-! ## Names -/

/-- A character of a name without quotes. -/
def isPlainNameChar (c : Char) : Bool := c != ' ' && c != '"' && !Text.isSign c

/-- A name, in quotes or not, and what stands behind it. -/
def name? (cs : List Char) : Option (List Char × List Char) :=
  match cs.takeWhile isPlainNameChar with
  | c :: name => some (c :: name, cs.dropWhile isPlainNameChar)
  | [] =>
    match cs with
    | '"' :: quoted =>
      match quoted.takeWhile (· != '"'), quoted.dropWhile (· != '"') with
      | c :: name, '"' :: rest => some (c :: name, rest)
      | _, _ => none
    | _ => none

/-- A reference by name: behind a signed number the text describes it, and without one it is a
comment that is shown after the span. -/
structure NamedReference where
  name : List Char
  amount : Option Amount
  desc : List Char
  spanText : List Char
  comment : List Char

/-- A reference by name behind its letter. -/
def namedReference? (cs : List Char) : Option NamedReference := do
  let (name, rest) ← name? cs
  let name := Text.trim name
  if name.isEmpty then none
  match Text.signedRun? rest with
  | some (run, rest) =>
    let amount ← Amount.read? run
    let desc := Text.skip ' ' rest
    some ⟨name, some amount, desc, name ++ run ++ [' '] ++ desc, []⟩
  | none => some ⟨name, none, [], name, Text.skip ' ' rest⟩

/-- A skill or a spell by name: `S:Broadsword+2 feint`. -/
def skill (body : Body) : Option Recognized := do
  let r ← namedReference? (← Text.dropLead? "S:".toList body.chars)
  some ⟨.skill (String.ofList r.name) r.amount (String.ofList r.desc),
    .link r.spanText "<b>S:</b>" r.comment⟩

/-- An attack by name: `A:"Broadsword (Swing)"`. -/
def attack (body : Body) : Option Recognized := do
  let r ← namedReference? (← Text.dropLead? "A:".toList body.chars)
  some ⟨.attack (String.ofList r.name) r.amount (String.ofList r.desc),
    .link r.spanText "<b>A:</b>" r.comment⟩

/-! ## Fixed words -/

/-- `Dodge`. -/
def dodge (body : Body) : Option Recognized :=
  match String.ofList body.chars with
  | "Dodge" | "DODGE" => some (shown body .dodge)
  | _ => none

/-- A sense or the fright check. -/
def sense (body : Body) : Option Recognized :=
  let desc := String.ofList body.chars
  (sense? desc).map fun path => shown body (.sense path desc)

/-- Where a sheet keeps a defense, by its word. -/
def defensePath? : String → Option String
  | "Block" | "BLOCK" => some "block"
  | "Parry" | "PARRY" => some "parry"
  | _ => none

/-- Block or parry, with the beginning of a weapon's name: `Parry:Broadsword`. -/
def defense (body : Body) : Option Recognized :=
  match (Text.split ':' body.chars).map String.ofList with
  | desc :: more =>
    (defensePath? desc).map fun path =>
      shown body (.defense desc (more.head?.filter fun weapon => !weapon.isEmpty) path)
  | [] => none

/-! ## The list -/

/-- The rules in the order in which they are tried. -/
def rules : List Rule :=
  [⟨"modifier", modifier⟩, ⟨"attribute", attributeCheck⟩,
    ⟨"targeted-attribute", targetedAttribute⟩, ⟨"self-control", selfControl⟩, ⟨"dice", dice⟩,
    ⟨"pdf", page⟩, ⟨"derived", derived⟩,
    ⟨"skill-spell", skill⟩, ⟨"attack", attack⟩, ⟨"dodge", dodge⟩, ⟨"mapped", sense⟩,
    ⟨"block-parry", defense⟩]

end Rollmark.Span
