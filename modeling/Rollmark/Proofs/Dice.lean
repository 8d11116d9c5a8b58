/-
Dice: as many faces are rolled as dice, and each of them is between one and the sides of its die, for
seeded dice as well as for scripted ones.
-/
import Mathlib.Algebra.Order.Ring.Nat
import Rollmark.Dice

namespace Rollmark.Dice

/-! ## Numbers below a bound -/

namespace Stream

/-- The high half of a product of two words. -/
theorem toNat_highHalf (word range : UInt32) :
    ((word.toUInt64 * range.toUInt64) >>> 32).toUInt32.toNat = word.toNat * range.toNat / 2 ^ 32 := by
  have hproduct : word.toNat * range.toNat < 2 ^ 32 * 2 ^ 32 :=
    Nat.mul_lt_mul'' word.toNat_lt range.toNat_lt
  have hhigh : word.toNat * range.toNat / 2 ^ 32 < 2 ^ 32 := Nat.div_lt_of_lt_mul hproduct
  rw [← Nat.pow_add] at hproduct
  rw [UInt64.toNat_toUInt32, UInt64.toNat_shiftRight, UInt64.toNat_mul, UInt32.toNat_toUInt64,
    UInt32.toNat_toUInt64, Nat.mod_eq_of_lt hproduct, Nat.shiftRight_eq_div_pow]
  exact Nat.mod_eq_of_lt hhigh

/-- A number that is drawn for a range is below it. -/
theorem below_lt {range : UInt32} (h : 0 < range.toNat) (tries : Nat) (s : Stream) :
    (below range tries s).1.toNat < range.toNat := by
  have hhigh : ∀ word : UInt32,
      ((word.toUInt64 * range.toUInt64) >>> 32).toUInt32.toNat < range.toNat := by
    intro word
    have hword := word.toNat_lt
    rw [toNat_highHalf]
    exact Nat.div_lt_of_lt_mul (Nat.mul_lt_mul_of_pos_right hword h)
  induction tries generalizing s with
  | zero => exact hhigh s.next.1
  | succ tries ih =>
    rw [below]
    dsimp only
    split
    · exact hhigh s.next.1
    · exact ih s.next.2

end Stream

/-! ## Faces -/

theorem toNat_sidesWord (sides : Nat) : (sidesWord sides).toNat = min (max sides 1) 4294967295 := by
  have hword : min (max sides 1) 4294967295 < 2 ^ 32 := by omega
  exact UInt32.toNat_ofNat_of_lt' hword

/-- A die shows at least one and at most its sides. -/
theorem roll_bounds (sides : Nat) (d : Dice) : 1 ≤ (d.roll sides).1 ∧ (d.roll sides).1 ≤ max sides 1 := by
  cases d with
  | seeded stream =>
    have hface : ((Dice.seeded stream).roll sides).1 =
        1 + (Stream.below (sidesWord sides) Stream.patience stream).1.toNat := rfl
    have hsides := toNat_sidesWord sides
    have hpositive : 0 < (sidesWord sides).toNat := by omega
    have hbelow := Stream.below_lt hpositive Stream.patience stream
    rw [hface]
    omega
  | scripted faces next =>
    unfold roll
    dsimp only
    split <;> dsimp only <;> omega

theorem length_rollMany (sides count : Nat) (d : Dice) : (d.rollMany sides count).1.length = count := by
  induction count generalizing d with
  | zero => rfl
  | succ count ih =>
    rw [rollMany]
    exact congrArg (· + 1) (ih _)

theorem rollMany_bounds (sides count : Nat) (d : Dice) :
    ∀ face ∈ (d.rollMany sides count).1, 1 ≤ face ∧ face ≤ max sides 1 := by
  induction count generalizing d with
  | zero => rintro face ⟨⟩
  | succ count ih =>
    rintro face (_ | ⟨_, hface⟩)
    · exact roll_bounds sides d
    · exact ih _ face hface

theorem sum_rollMany_le (sides count : Nat) (d : Dice) :
    (d.rollMany sides count).1.sum ≤ count * max sides 1 := by
  induction count generalizing d with
  | zero => exact Nat.zero_le _
  | succ count ih =>
    have hface := (roll_bounds sides d).2
    have hrest := ih (d.roll sides).2
    rw [rollMany, Nat.succ_mul]
    show (d.roll sides).1 + ((d.roll sides).2.rollMany sides count).1.sum ≤ _
    omega

/-! ## One die after another -/

/-- Rolls one die after another, each with its own number of sides. -/
def draw : List Nat → Dice → List Nat × Dice
  | [], d => ([], d)
  | sides :: more, d =>
    let (face, d') := d.roll sides
    let (faces, d'') := d'.draw more
    (face :: faces, d'')

theorem draw_cons (sides : Nat) (more : List Nat) (d : Dice) : d.draw (sides :: more) =
    ((d.roll sides).1 :: ((d.roll sides).2.draw more).1, ((d.roll sides).2.draw more).2) := rfl

/-- What is drawn first leaves the dice that are drawn from afterwards. -/
theorem draw_append (sides more : List Nat) (d : Dice) : d.draw (sides ++ more) =
    ((d.draw sides).1 ++ ((d.draw sides).2.draw more).1, ((d.draw sides).2.draw more).2) := by
  induction sides generalizing d with
  | nil => rfl
  | cons n sides ih =>
    rw [List.cons_append, draw_cons, ih, draw_cons]
    rfl

/-- Dice of one kind are rolled one after another. -/
theorem draw_replicate (count sides : Nat) (d : Dice) :
    d.draw (List.replicate count sides) = d.rollMany sides count := by
  induction count generalizing d with
  | zero => rfl
  | succ count ih =>
    rw [List.replicate_succ, draw_cons, ih]
    rfl

end Rollmark.Dice
