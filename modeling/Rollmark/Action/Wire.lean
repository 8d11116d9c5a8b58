/-
The wire form of actions: a JSON object with the text, the blind mark, the kind and its fields, and
that object in base64. What is written can be read back; the reader also takes members in another
order, unknown members, and defaults for some missing ones.
-/
import Rollmark.Action
import Rollmark.Base64
import Rollmark.Json.Fields
import Rollmark.Json.Printer
import Rollmark.Json.Reader
import Rollmark.Text.Blank
import Rollmark.Text.Encoding

namespace Rollmark.Action

/-! ## Writing -/

/-- A member that is left out when there is no value. -/
def optionalMember (name : String) : Option Json → List (String × Json)
  | some v => [(name, v)]
  | none => []

/-- An amount as JSON. -/
def amountJson (a : Amount) : Json := .integer a.val

/-- The members for the fields of a kind. -/
def Kind.members : Kind → List (String × Json)
  | .modifier amount desc => [("mod", amountJson amount), ("desc", .string desc)]
  | .attributeCheck name path amount desc target =>
    [("attribute", .string name), ("path", .string path)]
      ++ optionalMember "mod" (amount.map amountJson)
      ++ [("desc", .string desc)] ++ optionalMember "target" (target.map amountJson)
  | .selfControl target desc => [("target", amountJson target), ("desc", .string desc)]
  | .skill name amount desc =>
    [("name", .string name)] ++ optionalMember "mod" (amount.map amountJson)
      ++ [("desc", .string desc)]
  | .attack name amount desc =>
    [("name", .string name)] ++ optionalMember "mod" (amount.map amountJson)
      ++ [("desc", .string desc)]
  | .roll formula desc => [("formula", .string formula), ("desc", .string desc)]
  | .damage formula damageType => [("formula", .string formula), ("damagetype", .string damageType)]
  | .derivedRoll base formula desc =>
    [("derivedformula", .string base.text), ("formula", .string formula), ("desc", .string desc)]
  | .derivedDamage base formula damageType =>
    [("derivedformula", .string base.text), ("formula", .string formula),
      ("damagetype", .string damageType)]
  | .dodge => []
  | .sense path desc => [("path", .string path), ("desc", .string desc)]
  | .defense desc weapon path =>
    [("desc", .string desc)] ++ optionalMember "melee" (weapon.map .string)
      ++ [("path", .string path)]
  | .reference link => [("link", .string link)]

def toJson (a : Action) : Json :=
  .object ([("orig", .string a.orig)] ++ (if a.blind then [("blindroll", .bool true)] else [])
    ++ [("type", .string a.kind.tag)] ++ a.kind.members)

/-- The base64 of the compact JSON text. -/
def encode (a : Action) : String :=
  String.ofList (Base64.encode (Text.utf8Bytes a.toJson.compact))

/-! ## Reading -/

/-- The words for the kinds of actions, in their order. -/
def tags : List String :=
  ["modifier", "attribute", "selfcontrol", "skill-spell", "attack", "roll", "damage", "derivedroll",
    "deriveddamage", "dodge", "mapped", "block-parry", "pdf"]

/-- A kind of action by its word or by its place in the list. -/
def tag? : Json → Option String
  | .string s => if tags.contains s then some s else none
  | .integer n => if 0 ≤ n then tags[n.toNat]? else none
  | _ => none

/-- The names of the fields that belong to a kind. -/
def fieldNames : String → List String
  | "modifier" => ["mod", "desc"]
  | "attribute" => ["attribute", "path", "mod", "desc", "target"]
  | "selfcontrol" => ["target", "desc"]
  | "skill-spell" | "attack" => ["name", "mod", "desc"]
  | "roll" => ["formula", "desc"]
  | "damage" => ["formula", "damagetype"]
  | "derivedroll" => ["derivedformula", "formula", "desc"]
  | "deriveddamage" => ["derivedformula", "formula", "damagetype"]
  | "mapped" => ["path", "desc"]
  | "block-parry" => ["desc", "melee", "path"]
  | "pdf" => ["link"]
  | _ => []

/-- A derived value: its word, or an object with nothing under its word. -/
def base? : Json → Option DerivedBase
  | .string s => DerivedBase.ofText? s
  | .object [(s, .null)] => DerivedBase.ofText? s
  | .object [(s, .object [])] => DerivedBase.ofText? s
  | _ => none

/-- A kind of action from its word and its fields. -/
def Kind.ofFields? (tag : String) (fields : Json.Fields) : Option Kind :=
  let text (name : String) : Option String := fields.required name Json.text?
  let textOrEmpty (name : String) : Option String := fields.orElse name "" Json.text?
  let amount (name : String) : Option Amount := fields.required name Json.amount?
  let optionalAmount (name : String) : Option (Option Amount) :=
    fields.orElse name none (Json.optional? Json.amount?)
  match tag with
  | "modifier" => do some (.modifier (← amount "mod") (← text "desc"))
  | "attribute" => do
    some (.attributeCheck (← text "attribute") (← text "path") (← optionalAmount "mod")
      (← textOrEmpty "desc") (← optionalAmount "target"))
  | "selfcontrol" => do some (.selfControl (← amount "target") (← text "desc"))
  | "skill-spell" => do
    some (.skill (← text "name") (← optionalAmount "mod") (← textOrEmpty "desc"))
  | "attack" => do
    some (.attack (← text "name") (← optionalAmount "mod") (← textOrEmpty "desc"))
  | "roll" => do some (.roll (← text "formula") (← text "desc"))
  | "damage" => do some (.damage (← text "formula") (← text "damagetype"))
  | "derivedroll" => do
    some (.derivedRoll (← fields.required "derivedformula" base?) (← text "formula")
      (← text "desc"))
  | "deriveddamage" => do
    some (.derivedDamage (← fields.required "derivedformula" base?) (← text "formula")
      (← text "damagetype"))
  | "dodge" => some .dodge
  | "mapped" => do some (.sense (← text "path") (← text "desc"))
  | "block-parry" => do
    some (.defense (← text "desc") (← fields.orElse "melee" none (Json.optional? Json.text?))
      (← text "path"))
  | "pdf" => do some (.reference (← text "link"))
  | _ => none

/-- How deeply the wire form of an action may be nested. -/
def maxDepth : Nat := 127

def ofJson? : Json → Option Action
  | .object members => do
    if (Json.object members).depth > maxDepth || !(Json.object members).all Json.isReadable then
      none
    let common ← Json.Fields.ofMembers? false ["orig", "blindroll", "type"] members
    let orig ← common.required "orig" Json.text?
    let blind ← common.orElse "blindroll" false Json.flag?
    let tag ← common.required "type" tag?
    let fields ← Json.Fields.ofMembers? false (fieldNames tag) members
    some ⟨orig, blind, ← Kind.ofFields? tag fields⟩
  | _ => none

/-- Reads the JSON text of an action. -/
def read? (s : String) : Option Action := (Json.parse? s).bind ofJson?

/-- Reads the base64 form; blanks around it do not count. -/
def decode? (encoded : String) : Option Action :=
  ((Base64.decode? (Text.trim encoded.toList)).bind Text.strictUtf8?).bind read?

end Rollmark.Action
