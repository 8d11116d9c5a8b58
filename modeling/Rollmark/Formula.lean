/-
Dice formulas: `2d+1`, `3d8-1*2`, `4dx2(0.5)!`. A count and the letter `d`, then in this order the
sides, any number of signed terms, a multiplier, an armor divisor and a mark for totals of at least
one, each of them optional. White space may stand anywhere.
-/
import Rollmark.Dice
import Rollmark.Error
import Rollmark.Text.Blank
import Rollmark.Text.Scan

namespace Rollmark

/-- A dice formula. -/
structure Formula where
  count : Nat
  sides : Nat
  /-- The sum of the signed terms. -/
  adds : Amount
  multiplier : Option Nat
  /-- Kept for damage as it is written; it does not change the total. -/
  armorDivisor : Option String
  /-- The total never falls below one. -/
  minOne : Bool
deriving DecidableEq

namespace Formula

/-- The greatest count, number of sides and multiplier. -/
def limit : Nat := 1000

/-! ## Rolling -/

/-- The faces and the total of one roll. -/
structure Roll where
  faces : List Nat
  total : Amount
deriving DecidableEq

/-- The total for the given faces and a modifier: the faces and the adds, times the multiplier,
and the modifier. Every step stops at the limits of an amount. -/
def total (f : Formula) (faces : List Nat) (modifier : Amount) : Amount :=
  let sum := Amount.sum (faces.map fun (face : Nat) => Amount.clamp face)
  let factor := Amount.clamp (f.multiplier.getD 1)
  let plain := (sum + f.adds) * factor + modifier
  if f.minOne && plain < 1 then 1 else plain

/-- Rolls the dice of a formula. -/
def roll (f : Formula) (modifier : Amount) (dice : Dice) : Roll × Dice :=
  let (faces, dice') := dice.rollMany (min f.sides limit) (min f.count limit)
  (⟨faces, f.total faces modifier⟩, dice')

/-! ## Reading -/

/-- A character of an armor divisor. -/
def isDivisorChar (c : Char) : Bool := c == '.' || Text.isDecimalDigit c

/-- A number up to the limit. -/
def bounded? (cs : List Char) : Option Nat := (Text.natural? cs).filter (· ≤ limit)

/-- Cuts signed terms apart: every sign begins a term. -/
def signedTerms : List Char → List (List Char)
  | [] => []
  | c :: rest =>
    match signedTerms rest with
    | (d :: ds) :: more =>
      if Text.isSign d then [c] :: (d :: ds) :: more else (c :: d :: ds) :: more
    | _ => [[c]]

/-- The sum of signed terms on top of a first amount, if no term and no sum on the way leaves the
limits. -/
def sumTerms? (start : Amount) : List (List Char) → Option Amount
  | [] => some start
  | term :: rest =>
    match (Amount.read? term).bind fun a => Amount.ofInt? (start.val + a.val) with
    | some sum => sumTerms? sum rest
    | none => none

/-- The mark for totals of at least one, which ends a formula. -/
def minOne? : List Char → Option Bool
  | [] => some false
  | ['!'] => some true
  | _ => none

/-- The armor divisor between parentheses, and what follows. -/
def divisor? : List Char → Option (Option String × List Char)
  | '(' :: rest =>
    match rest.takeWhile isDivisorChar, rest.dropWhile isDivisorChar with
    | c :: cs, ')' :: rest' => some (some (String.ofList (c :: cs)), rest')
    | _, _ => none
  | cs => some (none, cs)

/-- The letters that stand before a multiplier. -/
def isTimes (c : Char) : Bool := c == 'x' || c == 'X' || c == '*'

/-- The multiplier behind its letter, and what follows. -/
def multiplier? : List Char → Option (Option Nat × List Char)
  | [] => some (none, [])
  | c :: rest =>
    if isTimes c then
      (bounded? (rest.takeWhile Text.isDecimalDigit)).map fun n =>
        (some n, rest.dropWhile Text.isDecimalDigit)
    else some (none, c :: rest)

/-- The sides, six when none are written. -/
def sides? (cs : List Char) : Option Nat := if cs.isEmpty then some 6 else bounded? cs

/-- Reads a formula without white space. -/
def readCompact? (cs : List Char) : Option Formula :=
  match cs.dropWhile Text.isDecimalDigit with
  | 'd' :: rest => do
    let count ← bounded? (cs.takeWhile Text.isDecimalDigit)
    let sides ← sides? (rest.takeWhile Text.isDecimalDigit)
    let rest := rest.dropWhile Text.isDecimalDigit
    let isTermChar := fun c => Text.isSign c || Text.isDecimalDigit c
    let adds ← sumTerms? 0 (signedTerms (rest.takeWhile isTermChar))
    let (multiplier, rest) ← multiplier? (rest.dropWhile isTermChar)
    let (divisor, rest) ← divisor? rest
    let minOne ← minOne? rest
    some ⟨count, sides, adds, multiplier, divisor, minOne⟩
  | _ => none

/-- Reads a formula; white space does not count. -/
def read? (s : String) : Option Formula :=
  readCompact? (s.toList.filter fun c => !Text.isBlank c)

/-- A formula, or the error that names the text as it was given, white space included. -/
def ofText (s : String) : Except Error Formula :=
  match read? s with
  | some f => .ok f
  | none => .error (.invalidFormula s)

/-! ## Writing -/

/-- The canonical form: adds only when there are some, and a star before the multiplier. -/
def text (f : Formula) : String :=
  String.ofList (Text.digits f.count) ++ "d" ++ String.ofList (Text.digits f.sides)
    ++ (if f.adds = 0 then "" else f.adds.signedText)
    ++ (match f.multiplier with
      | some k => "*" ++ String.ofList (Text.digits k)
      | none => "")
    ++ (match f.armorDivisor with
      | some d => "(" ++ d ++ ")"
      | none => "")
    ++ (if f.minOne then "!" else "")

/-! ## Explicit sixes -/

/-- What stands right before a place in a text: digits of a count, the `d` behind a count, digits
of the sides, or none of these. -/
inductive Place where
  | outside
  | count
  | marker
  | sides
deriving DecidableEq

/-- The place behind one more digit. -/
def Place.afterDigit : Place → Place
  | .outside | .count => .count
  | .marker | .sides => .sides

/-- Puts a six behind every `d` that follows a count and has no sides. -/
def sixesFrom : Place → List Char → List Char
  | .marker, [] => ['6']
  | _, [] => []
  | p, c :: rest =>
    if Text.isDecimalDigit c then c :: sixesFrom p.afterDigit rest
    else
      let after := c :: sixesFrom (if p = .count && c == 'd' then .marker else .outside) rest
      if p = .marker then '6' :: after else after

/-- A text in which bare dice such as `2d` are written with their sides, `2d6`. -/
def withSixes (s : String) : String := String.ofList (sixesFrom .outside s.toList)

end Formula

end Rollmark
