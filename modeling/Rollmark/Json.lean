/-
JSON values. An object keeps its members in the order of the text, and a name may stand more than
once. A number keeps what its text says: an integer, or a decimal with its digits.
-/
import Rollmark.Rounding
import Rollmark.Text.Numeral

namespace Rollmark

/-- A number written with a fraction or an exponent, or as minus zero. -/
structure Decimal where
  negative : Bool
  whole : List Char
  fraction : List Char
  exponent : List Char
deriving DecidableEq

/-- A JSON value. -/
inductive Json where
  | null
  | bool (b : Bool)
  | integer (n : Int)
  | decimal (d : Decimal)
  | string (s : String)
  | array (items : List Json)
  | object (members : List (String × Json))
  /-- A well-formed value that no text can hold: a string with half of a surrogate pair, or an
  object with such a name. -/
  | unreadable
deriving Inhabited

namespace Json

/-- The value of an optional value. -/
def ofOption {α : Type} (write : α → Json) : Option α → Json
  | none => .null
  | some a => write a

/-- A natural number. -/
def natural (n : Nat) : Json := .integer n

/-! ## Nesting and readability -/

mutual
/-- How many arrays and objects stand inside each other. -/
def depth : Json → Nat
  | .array items => itemsDepth items + 1
  | .object members => membersDepth members + 1
  | _ => 0
def itemsDepth : List Json → Nat
  | [] => 0
  | v :: rest => max (depth v) (itemsDepth rest)
def membersDepth : List (String × Json) → Nat
  | [] => 0
  | (_, v) :: rest => max (depth v) (membersDepth rest)
end

mutual
/-- Whether every part of a value passes a test on the parts that hold no others. -/
def all (test : Json → Bool) : Json → Bool
  | .array items => allItems test items
  | .object members => allMembers test members
  | v => test v
def allItems (test : Json → Bool) : List Json → Bool
  | [] => true
  | v :: rest => all test v && allItems test rest
def allMembers (test : Json → Bool) : List (String × Json) → Bool
  | [] => true
  | (_, v) :: rest => all test v && allMembers test rest
end

end Json

/-! ## Doubles -/

namespace Decimal

/-- The natural number nearest to another one among those with 53 binary digits before their
zeros; of two nearest the even one. -/
def roundToDouble (n : Nat) : Nat :=
  let unit := Nat.pow 2 (n.log2 - 52)
  roundQuotient n unit * unit

/-- Takes digits behind a number as long as it fits in 64 bits, and counts those left over. -/
def absorb (n : Nat) : List Char → Nat × Nat
  | [] => (n, 0)
  | c :: rest =>
    let next := 10 * n + Text.digitValue c
    if next < Nat.pow 2 64 then absorb next rest else (n, rest.length + 1)

/-- The power of ten that an exponent stands for; an absent exponent is zero. -/
def exponentValue (d : Decimal) : Int := (Text.integer? d.exponent).getD 0

/-- Whether a number is read as a finite double. The leading digits that fit in 64 bits and the
power of ten behind them are rounded one by one, and their product has to stay below the midpoint
between the greatest double and the next power of two. -/
def isFinite (d : Decimal) : Bool :=
  let (head, skipped) := absorb 0 d.whole
  let (lead, dropped) := absorb head d.fraction
  let exponent := d.exponentValue + skipped + dropped - d.fraction.length
  if lead == 0 then true
  else if d.exponentValue > 2147483647 || exponent > 308 then false
  else roundToDouble lead * roundToDouble (Nat.pow 10 exponent.toNat) <
    Nat.pow 2 1024 - Nat.pow 2 970

end Decimal

namespace Json

/-- A part that a reader of all values accepts: no broken text, and no number beyond the doubles. -/
def isReadable : Json → Bool
  | .unreadable => false
  | .decimal d => d.isFinite
  | .integer n => (Decimal.mk (n < 0) (Text.digits n.natAbs) [] []).isFinite
  | _ => true

end Json

end Rollmark
