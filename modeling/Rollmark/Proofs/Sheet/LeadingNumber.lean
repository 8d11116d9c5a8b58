/-
Leading numbers: the digits that stand in front of a text, behind blanks and perhaps a sign, are its leading
number as long as their value is an amount, whatever follows them. So every amount is read back from its
decimal form but the least one, whose digits without the sign are beyond the limits.
-/
import Rollmark.Proofs.Amount
import Rollmark.Proofs.Text.Scan
import Rollmark.Sheet.Lookup

namespace Rollmark

open Text (Numeral SignedNumeral)

/-! ## Typed numbers -/

section Typed

variable {blanks : List Char}

theorem natural?_takeWhile (n : Numeral) {rest : List Char} (hrest : ∀ c ∈ rest.head?, c.isDigit = false) :
    Text.natural? ((n.chars ++ rest).takeWhile Char.isDigit) = some n.value := by
  rw [Text.takeWhile_run n.isDigit hrest, n.natural?_chars]

theorem leadingNumber?_numeral (hblanks : ∀ c ∈ blanks, Text.isBlank c = true) (n : Numeral)
    {rest : List Char} (hrest : ∀ c ∈ rest.head?, c.isDigit = false) :
    leadingNumber? (String.ofList (blanks ++ (n.chars ++ rest))) = Amount.ofInt? n.value := by
  obtain ⟨d, ds, hchars⟩ := List.exists_cons_of_ne_nil n.ne_nil
  have hd : d.isDigit = true := n.isDigit d (by rw [hchars]; exact List.mem_cons_self)
  have hstart : Text.trimStart (blanks ++ (n.chars ++ rest)) = d :: (ds ++ rest) := by
    unfold Text.trimStart
    rw [List.dropWhile_append_of_pos hblanks, hchars, List.cons_append]
    exact Text.trimStart_eq_self (by rintro c ⟨⟩; exact Text.isBlank_of_isDigit hd)
  unfold leadingNumber?
  rw [String.toList_ofList, hstart]
  split
  · rename_i heq
    cases heq
    cases hd
  · rename_i heq
    cases heq
    cases hd
  · dsimp only
    rw [← List.cons_append, ← hchars, natural?_takeWhile n hrest, Option.bind_some]
    cases Amount.ofInt? n.value <;> rfl

/-- Behind a sign the digits alone have to be an amount. -/
theorem leadingNumber?_signed (hblanks : ∀ c ∈ blanks, Text.isBlank c = true) (n : SignedNumeral)
    {rest : List Char} (hrest : ∀ c ∈ rest.head?, c.isDigit = false) :
    leadingNumber? (String.ofList (blanks ++ (n.chars ++ rest))) =
      (Amount.ofInt? n.number.value).bind fun a => if n.negative then Amount.ofInt? (-a.val) else some a := by
  obtain ⟨negative, number⟩ := n
  have hstart (sign : Char) (hsign : Text.isBlank sign = false) :
      Text.trimStart (blanks ++ (sign :: number.chars ++ rest)) = sign :: (number.chars ++ rest) := by
    unfold Text.trimStart
    rw [List.dropWhile_append_of_pos hblanks]
    exact Text.trimStart_eq_self (by rintro c ⟨⟩; exact hsign)
  cases negative with
  | false =>
    show leadingNumber? (String.ofList (blanks ++ ('+' :: number.chars ++ rest))) = _
    simp only [leadingNumber?, String.toList_ofList, hstart '+' rfl, natural?_takeWhile number hrest,
      Option.bind_some]
    cases Amount.ofInt? number.value <;> rfl
  | true =>
    show leadingNumber? (String.ofList (blanks ++ ('-' :: number.chars ++ rest))) = _
    simp only [leadingNumber?, String.toList_ofList, hstart '-' rfl, natural?_takeWhile number hrest,
      Option.bind_some]
    cases Amount.ofInt? number.value <;> rfl

end Typed

/-! ## Decimal forms -/

theorem valueOf_zeros (k : Nat) (cs : List Char) :
    Text.valueOf (List.replicate k '0' ++ cs) = Text.valueOf cs := by
  induction k with
  | zero => rfl
  | succ k ih => exact ih

/-- A number with zeros in front. -/
def zerosBefore (k n : Nat) : Numeral where
  chars := List.replicate k '0' ++ Text.digits n
  ne_nil := List.append_ne_nil_of_right_ne_nil _ (Text.digits_ne_nil n)
  isDigit := by
    intro c hc
    rcases List.mem_append.1 hc with hc | hc
    · rw [List.eq_of_mem_replicate hc]
      rfl
    · exact Text.isDigit_of_mem_digits hc

theorem value_zerosBefore (k n : Nat) : (zerosBefore k n).value = n := by
  rw [Numeral.value, zerosBefore, valueOf_zeros, Text.valueOf_digits]

section Decimal

variable {blanks rest : List Char} {a : Amount}

theorem leadingNumber?_digits (hblanks : ∀ c ∈ blanks, Text.isBlank c = true)
    (hrest : ∀ c ∈ rest.head?, c.isDigit = false) (ha : 0 ≤ a) (k : Nat) :
    let zeros := List.replicate k '0'
    leadingNumber? (String.ofList (blanks ++ (zeros ++ a.digits ++ rest))) = some a ∧
      leadingNumber? (String.ofList (blanks ++ ('+' :: (zeros ++ a.digits) ++ rest))) = some a := by
  intro zeros
  have hval : (a.val.natAbs : Int) = a.val := Int.natAbs_of_nonneg ha
  have hread : Amount.ofInt? (zerosBefore k a.val.natAbs).value = some a := by
    rw [value_zerosBefore, hval, Amount.ofInt?_val]
  have hchars : (zerosBefore k a.val.natAbs).chars = zeros ++ a.digits := by
    rw [Amount.digits_of_nonneg ha]
    rfl
  constructor
  · rw [← hchars, leadingNumber?_numeral hblanks _ hrest, hread]
  · have hplus := leadingNumber?_signed hblanks ⟨false, zerosBefore k a.val.natAbs⟩ hrest
    rw [hread] at hplus
    rwa [← hchars]

/-- Behind a minus sign the digits are beyond the limits when the amount is the least one. -/
theorem leadingNumber?_negative (hblanks : ∀ c ∈ blanks, Text.isBlank c = true)
    (hrest : ∀ c ∈ rest.head?, c.isDigit = false) (ha : a.val < 0) :
    leadingNumber? (String.ofList (blanks ++ (a.digits ++ rest))) =
      if a.val = -2147483648 then none else some a := by
  have hchars : (SignedNumeral.ofInt a.val).chars = a.digits := by
    rw [Amount.chars_ofInt, Amount.signedDigits, if_pos ha]
  have hvalue : (SignedNumeral.ofInt a.val).number.value = a.val.natAbs := Numeral.value_ofNat _
  have hnegative : (SignedNumeral.ofInt a.val).negative = true := decide_eq_true ha
  rw [← hchars, leadingNumber?_signed hblanks _ hrest, hvalue, hnegative]
  by_cases hleast : a.val = -2147483648
  · rw [if_pos hleast, hleast]
    rfl
  · have hlower := a.lower
    have hfits : Amount.Fits a.val.natAbs := ⟨by omega, by omega⟩
    have hback : -(Amount.clamp a.val.natAbs).val = a.val := by
      rw [hfits.val_clamp]
      omega
    rw [if_neg hleast, hfits.ofInt?_eq, Option.bind_some, if_pos rfl, hback, Amount.ofInt?_val]

/-- Every amount but the least one is the leading number of its decimal form, whatever follows, and one that is
not negative may have zeros and a plus sign in front. The decimal form of the least amount has none. -/
theorem leadingNumber?_decimal (hblanks : ∀ c ∈ blanks, Text.isBlank c = true)
    (hrest : ∀ c ∈ rest.head?, c.isDigit = false) (a : Amount) :
    leadingNumber? (String.ofList (blanks ++ (a.digits ++ rest))) =
        (if a.val = -2147483648 then none else some a) ∧
      (0 ≤ a → ∀ k,
        let zeros := List.replicate k '0'
        leadingNumber? (String.ofList (blanks ++ (zeros ++ a.digits ++ rest))) = some a ∧
          leadingNumber? (String.ofList (blanks ++ ('+' :: (zeros ++ a.digits) ++ rest))) = some a) := by
  constructor
  · rcases Int.lt_or_le a.val 0 with hneg | hnonneg
    · exact leadingNumber?_negative hblanks hrest hneg
    · have hleast : a.val ≠ -2147483648 := by omega
      rw [if_neg hleast]
      exact (leadingNumber?_digits hblanks hrest hnonneg 0).1
  · intro hnonneg k
    exact leadingNumber?_digits hblanks hrest hnonneg k

/-- A parry with a fencing weapon. -/
theorem leadingNumber?_decimal_fencing :
    leadingNumber? "\t 12F" = some 12 ∧ leadingNumber? "\t +0012F" = some 12 := by
  have hdigits : Amount.digits 12 = ['1', '2'] := by
    show Text.digits 12 = _
    rw [Text.digits_of_ge (by decide), Text.digits_of_lt (by decide)]
    rfl
  have hfencing := @leadingNumber?_decimal ['\t', ' '] ['F'] (List.all_eq_true.1 rfl) (by rintro c ⟨⟩; rfl) 12
  rw [hdigits] at hfencing
  exact ⟨hfencing.1, (hfencing.2 (by decide) 2).2⟩

/-- The least amount is an amount, but it is not read back. -/
theorem leadingNumber?_least :
    (⟨-2147483648, by decide, by decide⟩ : Amount).text = "-2147483648" ∧
      leadingNumber? "-2147483648" = none := by
  have hdigits : Text.digits 2147483648 = "2147483648".toList := by
    simp [Text.digits]
    decide
  constructor
  · show String.ofList ('-' :: Text.digits 2147483648) = _
    rw [hdigits]
    rfl
  · decide

end Decimal

end Rollmark
