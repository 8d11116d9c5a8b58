/-
Doubles from zero up to 2 ^ 52, as whole numbers over powers of two: the double nearest to a
quotient, the shortest decimal that is read as a double, and the decimal with one place.
-/
import Rollmark.Json

namespace Rollmark

/-- A double: so many units, where a unit is one halved so many times. -/
structure Double where
  units : Nat
  halvings : Nat
deriving DecidableEq

namespace Double

/-- The double nearest to a quotient that is below 2 ^ 52. Unless it is zero its units have 53
binary digits. -/
def ofQuotient (num den : Nat) : Double :=
  if num = 0 then ⟨0, 0⟩
  else
    let few := 52 + den.log2 - num.log2
    let halvings := if num * Nat.pow 2 few < Nat.pow 2 52 * den then few + 1 else few
    let units := roundQuotient (num * Nat.pow 2 halvings) den
    if units = Nat.pow 2 53 then ⟨Nat.pow 2 52, halvings - 1⟩ else ⟨units, halvings⟩

/-! ## Shortest decimals -/

/-- Whether a decimal with so many places, written as a whole number, is read as this double. It
may be half a unit away, but below a power of two only a quarter, where the units become half as
large; just as far away it is read as the double with even units. -/
def covers (x : Double) (places decimal : Nat) : Bool :=
  let value := x.units * Nat.pow 10 places
  let shown := decimal * Nat.pow 2 x.halvings
  let reach := Nat.pow 10 places
  let distance :=
    if value ≤ shown then 2 * (shown - value)
    else (if x.units = Nat.pow 2 52 then 4 else 2) * (value - shown)
  distance < reach || (distance == reach && x.units % 2 == 0)

/-- The decimal with the fewest places from a number of places on that is read as a double, written
as a whole number, and its places. With as many places as there are halvings a decimal is exact. -/
def shortestFrom (x : Double) (places : Nat) : Nat → Nat × Nat
  | 0 => (roundQuotient (x.units * Nat.pow 10 places) (Nat.pow 2 x.halvings), places)
  | more + 1 =>
    let nearest := roundQuotient (x.units * Nat.pow 10 places) (Nat.pow 2 x.halvings)
    if x.covers places nearest then (nearest, places)
    else if x.covers places (nearest + 1) then (nearest + 1, places)
    else shortestFrom x (places + 1) more

/-- The shortest decimal that is read as a double, as a whole number and its places. -/
def shortest (x : Double) : Nat × Nat := x.shortestFrom 0 x.halvings

/-- Where digits in front of the point end: the number of digits less the places. From here on
down a decimal is written with an exponent. -/
def exponentFrom : Int := -5

/-- The shortest decimal as JSON: with at least one place, and with an exponent when more than four
zeros would stand behind the point. -/
def toJson (x : Double) : Json :=
  let (n, places) := x.shortest
  let ds := Text.digits n
  let point : Int := (ds.length : Int) - places
  if places = 0 then .decimal ⟨false, ds, ['0'], []⟩
  else if 0 < point then .decimal ⟨false, ds.take point.toNat, ds.drop point.toNat, []⟩
  else if exponentFrom < point then
    .decimal ⟨false, ['0'], List.replicate (-point).toNat '0' ++ ds, []⟩
  else .decimal ⟨false, ds.take 1, ds.drop 1, Text.integerDigits (point - 1)⟩

/-! ## One place -/

/-- The value with one place, of two nearest the one with an even digit. -/
def tenthsText (x : Double) : String :=
  let tenths := roundQuotient (10 * x.units) (Nat.pow 2 x.halvings)
  String.ofList (Text.digits (tenths / 10) ++ ['.', Text.digitChar tenths])

end Double

end Rollmark
