/-
Numerals: the digits of a number stand for that number, they are never absent, and they begin
with a zero only when they write zero. What is read as a number is digits and nothing else.
-/
import Rollmark.Text.Numeral

namespace Rollmark.Text

/-! ## One digit -/

theorem digitChar_spec : ∀ d, d < 10 → (Char.ofNat (0x30 + d)).isDigit = true ∧
    digitValue (Char.ofNat (0x30 + d)) = d ∧ (Char.ofNat (0x30 + d) = '0' → d = 0) := by
  decide

theorem isDigit_digitChar (n : Nat) : (digitChar n).isDigit = true :=
  (digitChar_spec (n % 10) (Nat.mod_lt _ (by decide))).1

theorem digitValue_digitChar (n : Nat) : digitValue (digitChar n) = n % 10 :=
  (digitChar_spec (n % 10) (Nat.mod_lt _ (by decide))).2.1

theorem digitChar_eq_zero {n : Nat} (h : digitChar n = '0') : n % 10 = 0 :=
  (digitChar_spec (n % 10) (Nat.mod_lt _ (by decide))).2.2 h

/-! ## Rows of digits -/

theorem digits_of_lt {n : Nat} (h : n < 10) : digits n = [digitChar n] := by
  rw [digits, if_pos h]

theorem digits_of_ge {n : Nat} (h : 10 ≤ n) : digits n = digits (n / 10) ++ [digitChar n] := by
  rw [digits, if_neg (by omega)]

theorem digits_ne_nil (n : Nat) : digits n ≠ [] := by
  rw [digits]; split <;> simp

theorem isDigit_of_mem_digits {n : Nat} {c : Char} (h : c ∈ digits n) : c.isDigit = true := by
  induction n using Nat.strongRecOn with
  | ind n ih =>
    rcases Nat.lt_or_ge n 10 with hn | hn
    · rw [digits_of_lt hn, List.mem_singleton] at h
      rw [h]; exact isDigit_digitChar n
    · rw [digits_of_ge hn, List.mem_append, List.mem_singleton] at h
      rcases h with h | h
      · exact ih (n / 10) (by omega) h
      · rw [h]; exact isDigit_digitChar n

theorem valueOf_append_digit (cs : List Char) (c : Char) :
    valueOf (cs ++ [c]) = 10 * valueOf cs + digitValue c := by
  unfold valueOf; rw [List.foldl_append]; rfl

/-- What stands in front of digits counts in every one of them. -/
theorem foldl_digitValue_lt {m n : Nat} (h : m < n) (cs : List Char) :
    cs.foldl (fun n c => 10 * n + digitValue c) m < cs.foldl (fun n c => 10 * n + digitValue c) n := by
  induction cs generalizing m n with
  | nil => exact h
  | cons c cs ih =>
    have hnext : 10 * m + digitValue c < 10 * n + digitValue c := by omega
    exact ih hnext

/-- A digit in front that is not zero makes a number greater. -/
theorem valueOf_lt_cons {c : Char} (h : 0 < digitValue c) (cs : List Char) : valueOf cs < valueOf (c :: cs) := by
  have hfirst : 0 < 10 * 0 + digitValue c := by omega
  exact foldl_digitValue_lt hfirst cs

/-- The digits of a number stand for it. -/
theorem valueOf_digits (n : Nat) : valueOf (digits n) = n := by
  induction n using Nat.strongRecOn with
  | ind n ih =>
    rcases Nat.lt_or_ge n 10 with hn | hn
    · have hv : valueOf [digitChar n] = 10 * 0 + digitValue (digitChar n) := rfl
      rw [digits_of_lt hn, hv, digitValue_digitChar]; omega
    · rw [digits_of_ge hn, valueOf_append_digit, ih (n / 10) (by omega), digitValue_digitChar]; omega

/-- Only zero is written with a zero in front. -/
theorem head_digits {n : Nat} (h : (digits n).head? = some '0') : n = 0 := by
  induction n using Nat.strongRecOn with
  | ind n ih =>
    rcases Nat.lt_or_ge n 10 with hn | hn
    · rw [digits_of_lt hn, List.head?_cons, Option.some.injEq] at h
      have := digitChar_eq_zero h
      omega
    · cases hd : digits (n / 10) with
      | nil => exact absurd hd (digits_ne_nil _)
      | cons c cs =>
        rw [digits_of_ge hn, hd, List.cons_append, List.head?_cons] at h
        have := ih (n / 10) (by omega) (by rw [hd]; exact h)
        omega

theorem isDigit_of_mem_head? {n : Nat} {rest : List Char} {c : Char}
    (h : c ∈ (digits n ++ rest).head?) : c.isDigit = true := by
  obtain ⟨d, ds, hdigits⟩ := List.exists_cons_of_ne_nil (digits_ne_nil n)
  rw [hdigits, List.cons_append, List.head?_cons, Option.mem_some_iff] at h
  have hmem : d ∈ digits n := hdigits ▸ List.mem_cons_self
  exact h ▸ isDigit_of_mem_digits hmem

/-! ## Reading -/

/-- A number is read from digits, at least one, and it is their value. -/
theorem natural?_eq_some {cs : List Char} {n : Nat} : natural? cs = some n ↔
    cs ≠ [] ∧ (∀ c ∈ cs, c.isDigit = true) ∧ valueOf cs = n := by
  unfold natural?
  simp [and_assoc]

theorem natural?_digits (n : Nat) : natural? (digits n) = some n :=
  natural?_eq_some.2 ⟨digits_ne_nil n, fun _ => isDigit_of_mem_digits, valueOf_digits n⟩

/-- Without a sign in front an integer is a number. -/
theorem integer?_eq_natural? {cs : List Char} (h : ∀ c ∈ cs.head?, c ≠ '-' ∧ c ≠ '+') :
    integer? cs = (natural? cs).map fun n : Nat => (n : Int) := by
  unfold integer?
  split
  · exact absurd rfl (h '-' rfl).1
  · exact absurd rfl (h '+' rfl).2
  · rfl

/-! ## Typed numbers -/

/-- A number as it is typed: the digits `0` to `9`, at least one, with any zeros in front. -/
structure Numeral where
  chars : List Char
  ne_nil : chars ≠ []
  isDigit : ∀ c ∈ chars, c.isDigit = true

namespace Numeral

def value (n : Numeral) : Nat := valueOf n.chars

theorem natural?_chars (n : Numeral) : natural? n.chars = some n.value :=
  natural?_eq_some.2 ⟨n.ne_nil, n.isDigit, rfl⟩

/-- A number without zeros in front. -/
def ofNat (n : Nat) : Numeral := ⟨digits n, digits_ne_nil n, fun _ => isDigit_of_mem_digits⟩

@[simp] theorem value_ofNat (n : Nat) : (ofNat n).value = n := valueOf_digits n

end Numeral

/-- A number as it is typed behind a sign. -/
structure SignedNumeral where
  negative : Bool
  number : Numeral

namespace SignedNumeral

def sign (n : SignedNumeral) : Char := if n.negative then '-' else '+'

def chars (n : SignedNumeral) : List Char := n.sign :: n.number.chars

def value (n : SignedNumeral) : Int := if n.negative then -(n.number.value : Int) else n.number.value

theorem integer?_chars (n : SignedNumeral) : integer? n.chars = some n.value := by
  obtain ⟨negative, number⟩ := n
  cases negative with
  | false =>
    show (natural? number.chars).map _ = _
    rw [number.natural?_chars]
    rfl
  | true =>
    show (natural? number.chars).map _ = _
    rw [number.natural?_chars]
    rfl

/-- A number with its sign, without zeros in front. -/
def ofInt (n : Int) : SignedNumeral := ⟨n < 0, .ofNat n.natAbs⟩

@[simp] theorem value_ofInt (n : Int) : (ofInt n).value = n := by
  simp only [value, ofInt, decide_eq_true_eq, Numeral.value_ofNat]
  split <;> omega

end SignedNumeral

end Rollmark.Text
