/-
Taking texts apart: optional characters, leads and endings, parts between separators, runs of
digits with a sign, and the first place where a rule finds something.
-/
import Rollmark.Text.DecimalDigit

namespace Rollmark.Text

/-- Drops one character in front if it is the given one. -/
def skip (c : Char) : List Char → List Char
  | [] => []
  | d :: rest => if d = c then rest else d :: rest

/-- What stands behind a lead, if a text begins with it. -/
def dropLead? : List Char → List Char → Option (List Char)
  | [], cs => some cs
  | _ :: _, [] => none
  | l :: lead, c :: cs => if l = c then dropLead? lead cs else none

/-- What stands before an ending, if a text ends with it. -/
def dropEnding? (ending cs : List Char) : Option (List Char) :=
  (dropLead? ending.reverse cs.reverse).map List.reverse

/-- The parts of a text between its separators. There is always one part more than there are
separators, and parts may be empty. -/
def split (separator : Char) : List Char → List (List Char)
  | [] => [[]]
  | c :: rest =>
    match split separator rest with
    | part :: more => if c = separator then [] :: part :: more else (c :: part) :: more
    | [] => [[c]]

/-- A plus or a minus sign. -/
def isSign (c : Char) : Bool := c == '+' || c == '-'

/-- The digits in front of a text, at least one, and what stands behind them. -/
def digitRun? (cs : List Char) : Option (List Char × List Char) :=
  match cs.takeWhile isDecimalDigit with
  | [] => none
  | ds => some (ds, cs.dropWhile isDecimalDigit)

/-- A sign with digits in front of a text, and what stands behind them. -/
def signedRun? : List Char → Option (List Char × List Char)
  | c :: cs => if isSign c then (digitRun? cs).map fun (ds, rest) => (c :: ds, rest) else none
  | [] => none

/-- Whether a text stays within one line. -/
def isOneLine (cs : List Char) : Bool := cs.all (· != '\n')

/-- What a rule finds at the first place where it finds anything. -/
def firstFound {α : Type} (rule : List Char → Option α) : List Char → Option α
  | [] => rule []
  | c :: rest =>
    match rule (c :: rest) with
    | some a => some a
    | none => firstFound rule rest

end Rollmark.Text
