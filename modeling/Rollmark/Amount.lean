/-
Amounts: the whole numbers that a sheet, a modifier or a roll can hold, from -2147483648 to
2147483647. Sums, differences and products that leave this range stop at its nearer end.
-/
import Rollmark.Text.Numeral

namespace Rollmark

/-- A whole number between the two limits of a game value. -/
structure Amount where
  val : Int
  lower : -2147483648 ≤ val
  upper : val ≤ 2147483647
deriving DecidableEq

namespace Amount

/-- The amount nearest to a number. -/
def clamp (n : Int) : Amount :=
  ⟨max (-2147483648) (min n 2147483647), by omega, by omega⟩

/-- The amount that is exactly this number, if there is one. -/
def ofInt? (n : Int) : Option Amount :=
  if h : -2147483648 ≤ n ∧ n ≤ 2147483647 then some ⟨n, h.1, h.2⟩ else none

instance (n : Nat) : OfNat Amount n := ⟨clamp n⟩

instance : Inhabited Amount := ⟨0⟩

/-- The sum, stopped at the limits. -/
instance : Add Amount := ⟨fun a b => clamp (a.val + b.val)⟩

/-- The difference, stopped at the limits. -/
instance : Sub Amount := ⟨fun a b => clamp (a.val - b.val)⟩

/-- The product, stopped at the limits. -/
instance : Mul Amount := ⟨fun a b => clamp (a.val * b.val)⟩

instance : LE Amount := ⟨fun a b => a.val ≤ b.val⟩

instance : LT Amount := ⟨fun a b => a.val < b.val⟩

instance (a b : Amount) : Decidable (a ≤ b) := inferInstanceAs (Decidable (a.val ≤ b.val))

instance (a b : Amount) : Decidable (a < b) := inferInstanceAs (Decidable (a.val < b.val))

instance : Min Amount := ⟨fun a b => if a ≤ b then a else b⟩

/-- The sum of a list from left to right, stopped at the limits after every step. -/
def sum (amounts : List Amount) : Amount := amounts.foldl (· + ·) 0

/-! ## Written form -/

/-- The decimal form, with a minus sign when negative. -/
def digits (a : Amount) : List Char := Text.integerDigits a.val

/-- The decimal form with its sign: `+2`, `-3`, and `+0` for zero. -/
def signedDigits (a : Amount) : List Char :=
  if a.val < 0 then a.digits else '+' :: a.digits

/-- The decimal form as text. -/
def text (a : Amount) : String := String.ofList a.digits

/-- The signed decimal form as text. -/
def signedText (a : Amount) : String := String.ofList a.signedDigits

/-- Reads an amount: an optional sign and the digits `0` to `9`, within the limits. -/
def read? (cs : List Char) : Option Amount := (Text.integer? cs).bind ofInt?

end Amount

end Rollmark
