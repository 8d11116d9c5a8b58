/-
Rounding a quotient of natural numbers to the nearest natural number.
-/
namespace Rollmark

/-- The natural number nearest to a quotient; of two nearest the even one. -/
def roundQuotient (num den : Nat) : Nat :=
  let q := num / den
  let r := num % den
  if 2 * r < den || (2 * r == den && q % 2 == 0) then q else q + 1

end Rollmark
