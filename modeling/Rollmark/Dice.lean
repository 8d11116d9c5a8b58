/-
Dice. Seeded dice give the same faces for the same seed; scripted dice play a list of faces over
and over, each lowered to the sides of the die at hand.
-/
import Rollmark.Amount
import Rollmark.Dice.Stream

namespace Rollmark

/-- A source of faces. -/
inductive Dice where
  | seeded (stream : Dice.Stream)
  | scripted (faces : List Nat) (next : Nat)
deriving DecidableEq

namespace Dice

def ofSeed (seed : UInt64) : Dice := .seeded (Stream.ofSeed seed)

def ofFaces (faces : List Nat) : Dice := .scripted faces 0

/-- The sides that a die can have: at least one, and no more than a word counts. -/
def sidesWord (sides : Nat) : UInt32 := (min (max sides 1) 4294967295).toUInt32

/-- Rolls one die. Scripted dice without faces show a one and stay where they are. -/
def roll (sides : Nat) : Dice → Nat × Dice
  | .seeded stream =>
    let (n, stream') := stream.below (sidesWord sides) Stream.patience
    (1 + n.toNat, .seeded stream')
  | .scripted faces next =>
    match faces[next % faces.length]? with
    | none => (1, .scripted faces next)
    | some face => (min (max face 1) (max sides 1), .scripted faces (next + 1))

/-- Rolls dice of one kind and gives their faces in order. -/
def rollMany (sides : Nat) : Nat → Dice → List Nat × Dice
  | 0, d => ([], d)
  | count + 1, d =>
    let (face, d') := d.roll sides
    let (faces, d'') := d'.rollMany sides count
    (face :: faces, d'')

/-- The total of three six-sided dice. -/
def threeD6 (d : Dice) : Amount × Dice :=
  let (faces, d') := d.rollMany 6 3
  (Amount.clamp (faces.foldl (· + ·) 0 : Nat), d')

/-! ## Written form -/

/-- Numbers between brackets. -/
def facesText (faces : List Nat) : String :=
  "[" ++ ", ".intercalate (faces.map fun n => String.ofList (Text.digits n)) ++ "]"

/-- What a report of the dice says. -/
def describe : Dice → String
  | .seeded _ => "Dice(seeded)"
  | .scripted faces next =>
    "Dice(scripted " ++ facesText faces ++ " @" ++ String.ofList (Text.digits next) ++ ")"

end Dice

end Rollmark
