/-
Reading records from JSON. A record is an object of its fields or an array of their values in the
declared order; each field is then read on its own, and a missing one may have a default.
-/
import Rollmark.Amount
import Rollmark.Json
import Rollmark.Keyed

namespace Rollmark.Json

/-! ## Plain values -/

/-- A string. -/
def text? : Json → Option String
  | .string s => some s
  | _ => none

/-- A truth value. -/
def flag? : Json → Option Bool
  | .bool b => some b
  | _ => none

/-- An integer from zero up to a limit. -/
def naturalUpTo? (limit : Nat) : Json → Option Nat
  | .integer n => if 0 ≤ n ∧ n ≤ limit then some n.toNat else none
  | _ => none

/-- An integer within the limits of an amount. -/
def amount? : Json → Option Amount
  | .integer n => Amount.ofInt? n
  | _ => none

/-- `null` or a value. -/
def optional? {α : Type} (read : Json → Option α) : Json → Option (Option α)
  | .null => some none
  | v => (read v).map some

/-- An array of values of one kind. -/
def list? {α : Type} (read : Json → Option α) : Json → Option (List α)
  | .array items => items.mapM read
  | _ => none

/-- An object used as a table. A repeated name keeps its first place and takes its last value. -/
def table? {α : Type} (read : Json → Option α) : Json → Option (List (String × α))
  | .object members =>
    (members.mapM fun m => (read m.2).map (m.1, ·)).map Keyed.ofList
  | _ => none

/-! ## Records -/

/-- The fields of a record that are present. -/
abbrev Fields := List (String × Json)

/-- The members of an object as fields: no declared name may be repeated, and in a closed record
no other name may stand. -/
def Fields.ofMembers? (closed : Bool) (names : List String) (members : Fields) : Option Fields :=
  let declared := members.filter fun (name, _) => names.contains name
  let distinct := names.all fun name => (declared.filter (·.1 == name)).length ≤ 1
  if distinct && (!closed || declared.length == members.length) then some declared else none

/-- The fields of a record written as an object or as an array in the declared order. -/
def fields? (closed : Bool) (names : List String) : Json → Option Fields
  | .object members => Fields.ofMembers? closed names members
  | .array items => if items.length ≤ names.length then some (names.zip items) else none
  | _ => none

/-- A field that has to be there. -/
def Fields.required {α : Type} (fields : Fields) (name : String) (read : Json → Option α) :
    Option α :=
  (fields.lookup name).bind read

/-- A field that takes a default when it is missing. -/
def Fields.orElse {α : Type} (fields : Fields) (name : String) (default : α)
    (read : Json → Option α) : Option α :=
  match fields.lookup name with
  | none => some default
  | some v => read v

end Rollmark.Json
