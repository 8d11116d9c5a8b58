/-
Decimal numerals: a natural number in the digits `0` to `9`, and the number that digits stand for.
-/
namespace Rollmark.Text

/-- The digit for a number below ten. -/
def digitChar (n : Nat) : Char := Char.ofNat (0x30 + n % 10)

/-- The number that a digit stands for. -/
def digitValue (c : Char) : Nat := c.toNat - 0x30

/-- A number in decimal, without leading zeros. -/
def digits (n : Nat) : List Char :=
  if n < 10 then [digitChar n] else digits (n / 10) ++ [digitChar n]
termination_by n

/-- The number that a row of digits stands for; zero for no digits. -/
def valueOf (cs : List Char) : Nat := cs.foldl (fun n c => 10 * n + digitValue c) 0

/-- Reads a number: at least one digit, and nothing but the digits `0` to `9`. -/
def natural? (cs : List Char) : Option Nat :=
  if !cs.isEmpty && cs.all Char.isDigit then some (valueOf cs) else none

/-- Reads a number with an optional plus sign. -/
def unsigned? : List Char → Option Nat
  | '+' :: cs => natural? cs
  | cs => natural? cs

/-- Reads a number with an optional sign. -/
def integer? : List Char → Option Int
  | '-' :: cs => (natural? cs).map fun n : Nat => -(n : Int)
  | '+' :: cs => (natural? cs).map fun n : Nat => (n : Int)
  | cs => (natural? cs).map fun n : Nat => (n : Int)

/-- An integer in decimal, with a minus sign when it is negative. -/
def integerDigits : Int → List Char
  | .ofNat n => digits n
  | .negSucc n => '-' :: digits (n + 1)

end Rollmark.Text
