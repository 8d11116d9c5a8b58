/-
The stream of random words behind seeded dice: ChaCha with eight rounds. A block is a square of
sixteen 32-bit words, here four rows of four; a key of eight words and a counter of 64 bits give
one block after another, and the words are drawn in the order of their blocks.
-/
namespace Rollmark.Dice

/-- Four words of a block. -/
structure Row where
  w₀ : UInt32
  w₁ : UInt32
  w₂ : UInt32
  w₃ : UInt32
deriving DecidableEq

namespace Row

def add (x y : Row) : Row := ⟨x.w₀ + y.w₀, x.w₁ + y.w₁, x.w₂ + y.w₂, x.w₃ + y.w₃⟩

def xor (x y : Row) : Row := ⟨x.w₀ ^^^ y.w₀, x.w₁ ^^^ y.w₁, x.w₂ ^^^ y.w₂, x.w₃ ^^^ y.w₃⟩

/-- A word with its bits moved left in a circle. -/
def rotateWord (w n : UInt32) : UInt32 := (w <<< n) ||| (w >>> (32 - n))

/-- Every word with its bits moved left in a circle. -/
def rotate (x : Row) (n : UInt32) : Row :=
  ⟨rotateWord x.w₀ n, rotateWord x.w₁ n, rotateWord x.w₂ n, rotateWord x.w₃ n⟩

/-- The words moved one place to the left in a circle. -/
def turn (x : Row) : Row := ⟨x.w₁, x.w₂, x.w₃, x.w₀⟩

def toList (x : Row) : List UInt32 := [x.w₀, x.w₁, x.w₂, x.w₃]

end Row

/-- Sixteen words. -/
structure Block where
  a : Row
  b : Row
  c : Row
  d : Row
deriving DecidableEq

namespace Block

/-- Mixes the words of every column. -/
def mixColumns (x : Block) : Block :=
  let a₁ := x.a.add x.b
  let d₁ := (x.d.xor a₁).rotate 16
  let c₁ := x.c.add d₁
  let b₁ := (x.b.xor c₁).rotate 12
  let a₂ := a₁.add b₁
  let d₂ := (d₁.xor a₂).rotate 8
  let c₂ := c₁.add d₂
  let b₂ := (b₁.xor c₂).rotate 7
  ⟨a₂, b₂, c₂, d₂⟩

/-- Brings the words of every diagonal into one column. -/
def slant (x : Block) : Block := ⟨x.a, x.b.turn, x.c.turn.turn, x.d.turn.turn.turn⟩

/-- Brings the words back to their diagonals. -/
def straighten (x : Block) : Block := ⟨x.a, x.b.turn.turn.turn, x.c.turn.turn, x.d.turn⟩

/-- A round on the columns and a round on the diagonals. -/
def twoRounds (x : Block) : Block := x.mixColumns.slant.mixColumns.straighten

def add (x y : Block) : Block := ⟨x.a.add y.a, x.b.add y.b, x.c.add y.c, x.d.add y.d⟩

/-- The output for an input block: eight rounds, and the input added to their result. -/
def scramble (x : Block) : Block := x.twoRounds.twoRounds.twoRounds.twoRounds.add x

def toList (x : Block) : List UInt32 := x.a.toList ++ x.b.toList ++ x.c.toList ++ x.d.toList

end Block

/-- A stream of random words: its key, the number of the next block, and the words of the last
block that are still to be drawn. -/
structure Stream where
  low : Row
  high : Row
  counter : UInt64
  pending : List UInt32
deriving DecidableEq

namespace Stream

/-- The constants of the first row. -/
def constants : Row := ⟨0x61707865, 0x3320646E, 0x79622D32, 0x6B206574⟩

/-- The words of the next block. -/
def blockWords (s : Stream) : List UInt32 :=
  (Block.scramble ⟨constants, s.low, s.high,
    ⟨s.counter.toUInt32, (s.counter >>> 32).toUInt32, 0, 0⟩⟩).toList

/-- Draws a word. -/
def next (s : Stream) : UInt32 × Stream :=
  match s.pending with
  | w :: rest => (w, { s with pending := rest })
  | [] =>
    match s.blockWords with
    | w :: rest => (w, { s with counter := s.counter + 1, pending := rest })
    | [] => (0, s)

/-! ## Keys from seeds -/

/-- The step of the generator that spreads a seed over a key. -/
def advance (state : UInt64) : UInt64 := state * 6364136223846793005 + 11634580027462260723

/-- The word that a state of this generator gives. -/
def seedWord (state : UInt64) : UInt32 :=
  let x := (((state >>> 18) ^^^ state) >>> 27).toUInt32
  let turns := (state >>> 59).toUInt32
  (x >>> turns) ||| (x <<< ((32 - turns) % 32))

/-- The stream of a seed. -/
def ofSeed (seed : UInt64) : Stream :=
  let s₀ := advance seed
  let s₁ := advance s₀
  let s₂ := advance s₁
  let s₃ := advance s₂
  let s₄ := advance s₃
  let s₅ := advance s₄
  let s₆ := advance s₅
  let s₇ := advance s₆
  ⟨⟨seedWord s₀, seedWord s₁, seedWord s₂, seedWord s₃⟩,
    ⟨seedWord s₄, seedWord s₅, seedWord s₆, seedWord s₇⟩, 0, []⟩

/-! ## Numbers below a bound -/

/-- The greatest low half that a product with this range may have. It leaves every number of the
range the same number of words. -/
def zone (range : UInt32) : UInt32 :=
  (range <<< (31 - range.toNat.log2).toUInt32) - 1

/-- How often a word may be refused in a row. A word is refused less than half of the time, so a
draw that runs into this limit does not come up in practice. -/
def patience : Nat := 4096

/-- A number below a positive range, each with the same chance: the high half of the product of
the range and a word, drawn again while the low half is beyond the zone. -/
def below (range : UInt32) : Nat → Stream → UInt32 × Stream
  | 0, s =>
    let (word, s') := s.next
    (((word.toUInt64 * range.toUInt64) >>> 32).toUInt32, s')
  | tries + 1, s =>
    let (word, s') := s.next
    let product := word.toUInt64 * range.toUInt64
    if product.toUInt32 ≤ zone range then ((product >>> 32).toUInt32, s')
    else below range tries s'

end Stream

end Rollmark.Dice
