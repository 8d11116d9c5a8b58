/-
Amounts: an amount is read from its value and from each of its written forms, amounts stand in the
order of their values, and a sum is exact as long as it stays within the limits.
-/
import Mathlib.Algebra.Order.Ring.Int
import Rollmark.Amount
import Rollmark.Proofs.Text.Numeral

namespace Rollmark.Amount

theorem eq_of_val_eq {a b : Amount} (h : a.val = b.val) : a = b := by
  cases a
  cases b
  cases h
  rfl

theorem ofInt?_val (a : Amount) : ofInt? a.val = some a := by
  rw [ofInt?, dif_pos ⟨a.lower, a.upper⟩]

theorem val_of_ofInt? {n : Int} {a : Amount} (h : ofInt? n = some a) : a.val = n := by
  rw [ofInt?] at h
  split at h
  · cases h
    rfl
  · cases h

/-- A number within the limits is not stopped. -/
theorem val_clamp {n : Int} (lower : -2147483648 ≤ n) (upper : n ≤ 2147483647) :
    (clamp n).val = n := by
  show max (-2147483648) (min n 2147483647) = n
  omega

theorem eq_iff {a b : Amount} : a = b ↔ a.val = b.val := ⟨congrArg val, eq_of_val_eq⟩

theorem add_def (a b : Amount) : a + b = clamp (a.val + b.val) := rfl

theorem mul_def (a b : Amount) : a * b = clamp (a.val * b.val) := rfl

theorem val_add {a b : Amount} (lower : -2147483648 ≤ a.val + b.val)
    (upper : a.val + b.val ≤ 2147483647) : (a + b).val = a.val + b.val := by
  rw [add_def, val_clamp lower upper]

theorem add_zero (a : Amount) : a + 0 = a := by
  show clamp (a.val + 0) = a
  rw [Int.add_zero]
  exact eq_of_val_eq (val_clamp a.lower a.upper)

theorem val_sub (a b : Amount) : (a - b).val = max (-2147483648) (min (a.val - b.val) 2147483647) := rfl

/-- A difference that stops at a limit keeps its sign. -/
theorem lt_of_sub_pos {a b : Amount} (h : 0 < a - b) : b < a := by
  have hpos : 0 < (a - b).val := h
  rw [val_sub] at hpos
  show b.val < a.val
  omega

/-! ## Numbers within the limits -/

/-- An amount can be this number. -/
def Fits (n : Int) : Prop := -2147483648 ≤ n ∧ n ≤ 2147483647

theorem fits (a : Amount) : Fits a.val := ⟨a.lower, a.upper⟩

theorem fits_zero : Fits 0 := ⟨by decide, by decide⟩

theorem Fits.val_clamp {n : Int} (h : Fits n) : (clamp n).val = n := Amount.val_clamp h.1 h.2

theorem clamp_val (a : Amount) : clamp a.val = a := eq_of_val_eq a.fits.val_clamp

theorem zero_add (a : Amount) : 0 + a = a := by
  show clamp (0 + a.val) = a
  rw [Int.zero_add, clamp_val]

theorem mul_one (a : Amount) : a * 1 = a := by
  show clamp (a.val * 1) = a
  rw [Int.mul_one, clamp_val]

theorem Fits.ofInt?_eq {n : Int} (h : Fits n) : ofInt? n = some (clamp n) := by
  have hclamp := ofInt?_val (clamp n)
  rwa [h.val_clamp] at hclamp

/-- A number that is typed behind a sign is read as its value. -/
theorem read?_chars {n : Text.SignedNumeral} (h : Fits n.value) : read? n.chars = some (clamp n.value) := by
  rw [read?, n.integer?_chars, Option.bind_some, h.ofInt?_eq]

/-! ## Order -/

/-- Amounts stand in the order of their values. -/
instance : LinearOrder Amount where
  le_refl a := Int.le_refl a.val
  le_trans _ _ _ hab hbc := Int.le_trans hab hbc
  le_antisymm _ _ hab hba := eq_of_val_eq (Int.le_antisymm hab hba)
  le_total a b := Int.le_total a.val b.val
  lt_iff_le_not_ge a b := Int.lt_iff_le_and_not_ge
  min_def _ _ := rfl
  toDecidableEq := inferInstance
  toDecidableLE := inferInstance
  toDecidableLT := inferInstance

/-- Stopping at the limits keeps the order. -/
theorem clamp_le_clamp {m n : Int} (h : m ≤ n) : clamp m ≤ clamp n := by
  show max (-2147483648) (min m 2147483647) ≤ max (-2147483648) (min n 2147483647)
  omega

theorem add_le_add {a b c d : Amount} (hab : a ≤ b) (hcd : c ≤ d) : a + c ≤ b + d :=
  clamp_le_clamp (Int.add_le_add hab hcd)

theorem mul_le_mul_right {a b c : Amount} (hab : a ≤ b) (hc : 0 ≤ c.val) : a * c ≤ b * c :=
  clamp_le_clamp (Int.mul_le_mul_of_nonneg_right hab hc)

/-! ## Sums -/

/-- On the way to a single number there is nothing but that number. -/
theorem Fits.sum_of_singleton {n : Int} (h : Fits n) {before : List Int} (hbefore : before <+: [n]) :
    Fits before.sum := by
  rcases List.prefix_cons_iff.1 hbefore with rfl | ⟨rest, rfl, hrest⟩
  · exact fits_zero
  · obtain rfl := List.prefix_nil.1 hrest
    simpa using h

/-- A sum is exact when no sum on the way leaves the limits. -/
theorem val_foldl_add {start : Amount} {as : List Amount}
    (h : ∀ before, before <+: as.map (·.val) → Fits (start.val + before.sum)) :
    (as.foldl (· + ·) start).val = start.val + (as.map (·.val)).sum := by
  induction as generalizing start with
  | nil => exact (Int.add_zero _).symm
  | cons a as ih =>
    -- the sum up to here is the start of the rest
    have hfirst : Fits (start.val + a.val) := by
      simpa using h [a.val] (List.prefix_append [a.val] _)
    have hstart : (start + a).val = start.val + a.val := hfirst.val_clamp
    have hrest : ∀ before, before <+: as.map (·.val) → Fits ((start + a).val + before.sum) := by
      intro before hbefore
      have hlong := h (a.val :: before) (List.cons_prefix_cons.2 ⟨rfl, hbefore⟩)
      rwa [List.sum_cons, ← Int.add_assoc, ← hstart] at hlong
    rw [List.foldl_cons, ih hrest, hstart, List.map_cons, List.sum_cons, Int.add_assoc]

theorem val_sum {as : List Amount} (h : ∀ before, before <+: as.map (·.val) → Fits before.sum) :
    (sum as).val = (as.map (·.val)).sum := by
  have hzero : (0 : Amount).val = 0 := rfl
  have hsum := @val_foldl_add 0 as fun before hbefore => by
    rw [hzero, Int.zero_add]
    exact h before hbefore
  rwa [hzero, Int.zero_add] at hsum

/-- Numbers that are not negative are stopped at most once on the way, and then their sum stays where
it is. -/
theorem foldl_clamp {start : Amount} (h : 0 ≤ start.val) (ns : List Nat) :
    (ns.map fun (n : Nat) => clamp n).foldl (· + ·) start = clamp (start.val + (ns.sum : Nat)) := by
  induction ns generalizing start with
  | nil =>
    obtain ⟨val, lower, upper⟩ := start
    refine eq_of_val_eq ?_
    show val = max (-2147483648) (min (val + 0) 2147483647)
    omega
  | cons n ns ih =>
    have hstart : (start + clamp n).val = min (start.val + n) 2147483647 := by
      show max (-2147483648) (min (start.val + max (-2147483648) (min (n : Int) 2147483647)) 2147483647) =
        min (start.val + n) 2147483647
      omega
    rw [List.map_cons, List.foldl_cons, ih (by omega), hstart, List.sum_cons]
    refine eq_of_val_eq ?_
    show max (-2147483648) (min (min (start.val + n) 2147483647 + (ns.sum : Nat)) 2147483647) =
      max (-2147483648) (min (start.val + (n + ns.sum : Nat)) 2147483647)
    omega

theorem sum_clamp (ns : List Nat) : sum (ns.map fun (n : Nat) => clamp n) = clamp (ns.sum : Nat) := by
  have hsum := @foldl_clamp 0 (by decide) ns
  have hzero : (0 : Amount).val = 0 := rfl
  rwa [hzero, Int.zero_add] at hsum

/-- The sum of amounts that are not negative is stopped once, at the end. -/
theorem sum_of_nonneg {as : List Amount} (h : ∀ a ∈ as, 0 ≤ a.val) :
    sum as = clamp ((as.map (·.val.toNat)).sum : Nat) := by
  have has : (as.map (·.val.toNat)).map (fun (n : Nat) => clamp n) = as := by
    rw [List.map_map]
    refine (List.map_congr_left fun a ha => eq_of_val_eq ?_).trans (List.map_id as)
    have hnonneg := h a ha
    have hupper := a.upper
    show max (-2147483648) (min ((a.val.toNat : Nat) : Int) 2147483647) = a.val
    omega
  rw [← sum_clamp, has]

/-! ## Written forms -/

/-- The sign that stands before an amount. -/
def sign (a : Amount) : Char := if a.val < 0 then '-' else '+'

theorem signedDigits_eq (a : Amount) : a.signedDigits = a.sign :: Text.digits a.val.natAbs := by
  obtain ⟨n, lower, upper⟩ := a
  cases n with
  | ofNat n => rfl
  | negSucc n =>
    unfold signedDigits sign
    rw [if_pos (Int.negSucc_lt_zero n), if_pos (Int.negSucc_lt_zero n)]
    rfl

theorem chars_ofInt (a : Amount) : (Text.SignedNumeral.ofInt a.val).chars = a.signedDigits := by
  rw [signedDigits_eq, Text.SignedNumeral.chars, Text.SignedNumeral.sign, Text.SignedNumeral.ofInt]
  simp only [sign, decide_eq_true_eq]
  rfl

/-- An amount is read from its form with a sign, the least amount included. -/
theorem read?_signedDigits (a : Amount) : read? a.signedDigits = some a := by
  have hread : Text.integer? a.signedDigits = some a.val := by
    rw [signedDigits_eq]
    unfold sign
    split
    · have hval : -(a.val.natAbs : Int) = a.val := by omega
      rw [Text.integer?, Text.natural?_digits, Option.map_some, hval]
    · have hval : (a.val.natAbs : Int) = a.val := by omega
      rw [Text.integer?, Text.natural?_digits, Option.map_some, hval]
  rw [read?, hread, Option.bind_some, ofInt?_val]

theorem digits_of_nonneg {a : Amount} (h : 0 ≤ a.val) : a.digits = Text.digits a.val.natAbs := by
  obtain ⟨n, lower, upper⟩ := a
  cases n with
  | ofNat n => rfl
  | negSucc n => exact absurd h (by simp)

theorem toList_text {a : Amount} (h : 0 ≤ a.val) : a.text.toList = Text.digits a.val.natAbs := by
  rw [text, String.toList_ofList, digits_of_nonneg h]

/-- What is read without a minus sign in front is not negative. -/
theorem nonneg_of_read? {cs : List Char} {a : Amount} (hsign : cs.head? ≠ some '-')
    (h : read? cs = some a) : 0 ≤ a.val := by
  obtain ⟨n, hn, ha⟩ := Option.bind_eq_some_iff.1 h
  rw [val_of_ofInt? ha]
  unfold Text.integer? at hn
  split at hn
  · exact absurd rfl hsign
  · obtain ⟨m, -, rfl⟩ := Option.map_eq_some_iff.1 hn
    exact Int.natCast_nonneg m
  · obtain ⟨m, -, rfl⟩ := Option.map_eq_some_iff.1 hn
    exact Int.natCast_nonneg m

/-- What begins without a sign is read as an amount when it is digits, and then it is their value. -/
theorem read?_eq_some {cs : List Char} {a : Amount} (h : ∀ c ∈ cs.head?, c ≠ '-' ∧ c ≠ '+') :
    read? cs = some a ↔
      cs ≠ [] ∧ (∀ c ∈ cs, c.isDigit = true) ∧ (Text.valueOf cs : Int) = a.val := by
  rw [read?, Text.integer?_eq_natural? h]
  constructor
  · intro hread
    obtain ⟨n, hn, ha⟩ := Option.bind_eq_some_iff.1 hread
    obtain ⟨m, hm, rfl⟩ := Option.map_eq_some_iff.1 hn
    obtain ⟨hne, hdigits, rfl⟩ := Text.natural?_eq_some.1 hm
    exact ⟨hne, hdigits, (val_of_ofInt? ha).symm⟩
  · rintro ⟨hne, hdigits, hval⟩
    rw [Text.natural?_eq_some.2 ⟨hne, hdigits, rfl⟩, Option.map_some, hval, Option.bind_some, ofInt?_val]

/-- An amount that is not negative is read from its form without a sign. -/
theorem read?_digits {a : Amount} (h : 0 ≤ a.val) :
    read? (Text.digits a.val.natAbs) = some a := by
  have hplain : ∀ c ∈ (Text.digits a.val.natAbs).head?, c ≠ '-' ∧ c ≠ '+' := by
    intro c hc
    have hdigit := Text.isDigit_of_mem_digits (List.mem_of_mem_head? hc)
    constructor <;> rintro rfl <;> cases hdigit
  refine (read?_eq_some hplain).2 ⟨Text.digits_ne_nil _, fun _ => Text.isDigit_of_mem_digits, ?_⟩
  rw [Text.valueOf_digits]
  omega

end Rollmark.Amount
