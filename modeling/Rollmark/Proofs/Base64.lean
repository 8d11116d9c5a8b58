/-
Base64 reads back what it writes: every row of bytes, with none, one or two symbols of padding at
its end. What is written holds the symbols and the padding only.
-/
import Rollmark.Base64

namespace Rollmark.Base64

/-! ## Symbols -/

theorem symbol_spec : ∀ n, n < 64 → value? (symbol n) = some n ∧ symbol n ≠ '=' := by decide

theorem value?_symbol {n : Nat} (h : n < 64) : value? (symbol n) = some n := (symbol_spec n h).1

theorem symbol_ne_pad {n : Nat} (h : n < 64) : symbol n ≠ '=' := (symbol_spec n h).2

/-! ## Bytes from symbols -/

theorem toUInt8_toNat (a : UInt8) (n : Nat) (h : n = a.toNat) : n.toUInt8 = a := by
  rw [h]; exact UInt8.ofNat_toNat

/-- A group of four symbols of which the last is no padding. -/
theorem decode?_group {a b c d : Char} {x y z w : Nat} {rest : List Char} {bytes : List UInt8}
    (ha : value? a = some x) (hb : value? b = some y) (hc : value? c = some z)
    (hd : value? d = some w) (hpad : d ≠ '=') (hr : decode? rest = some bytes) :
    decode? (a :: b :: c :: d :: rest) = some ((x * 4 + y / 16).toUInt8
      :: (y % 16 * 16 + z / 4).toUInt8 :: (z % 4 * 64 + w).toUInt8 :: bytes) := by
  rw [decode?]
  · simp only [ha, hb, hc, hd, hr]
  · rintro rfl rfl; contradiction
  · rintro rfl; contradiction

/-- What is written can be read back. -/
theorem decode?_encode (bytes : List UInt8) : decode? (encode bytes) = some bytes := by
  fun_induction encode bytes with
  | case1 => rfl
  | case2 a =>
    have la := a.toNat_lt
    have hx := value?_symbol (show a.toNat / 4 < 64 by omega)
    have hy := value?_symbol (show a.toNat % 4 * 16 < 64 by omega)
    simp only [decode?, hx, hy]
    rw [if_pos (by omega), toUInt8_toNat a _ (by omega)]
  | case3 a b =>
    have la := a.toNat_lt
    have lb := b.toNat_lt
    have hx := value?_symbol (show a.toNat / 4 < 64 by omega)
    have hy := value?_symbol (show a.toNat % 4 * 16 + b.toNat / 16 < 64 by omega)
    have hz := value?_symbol (show b.toNat % 16 * 4 < 64 by omega)
    have hpad := symbol_ne_pad (show b.toNat % 16 * 4 < 64 by omega)
    rw [decode?]
    · simp only [hx, hy, hz]
      rw [if_pos (by omega), toUInt8_toNat a _ (by omega), toUInt8_toNat b _ (by omega)]
    · exact fun h => absurd h hpad
  | case4 a b c rest ih =>
    have la := a.toNat_lt
    have lb := b.toNat_lt
    have lc := c.toNat_lt
    have hw : c.toNat % 64 < 64 := Nat.mod_lt _ (by decide)
    rw [decode?_group (value?_symbol (by omega)) (value?_symbol (by omega))
      (value?_symbol (by omega)) (value?_symbol hw) (symbol_ne_pad hw) ih,
      toUInt8_toNat a _ (by omega), toUInt8_toNat b _ (by omega), toUInt8_toNat c _ (by omega)]

/-! ## The characters of the written form -/

/-- What holds of every symbol and of the padding holds of every character that is written. -/
theorem forall_mem_encode {P : Char → Prop} (hsymbol : ∀ n, n < 64 → P (symbol n)) (hpad : P '=')
    (bytes : List UInt8) : ∀ c ∈ encode bytes, P c := by
  fun_induction encode bytes with
  | case1 => nofun
  | case2 a =>
    have la := a.toNat_lt
    simp only [List.forall_mem_cons]
    exact ⟨hsymbol _ (by omega), hsymbol _ (by omega), hpad, hpad, nofun⟩
  | case3 a b =>
    have la := a.toNat_lt
    have lb := b.toNat_lt
    simp only [List.forall_mem_cons]
    exact ⟨hsymbol _ (by omega), hsymbol _ (by omega), hsymbol _ (by omega), hpad, nofun⟩
  | case4 a b c rest ih =>
    have la := a.toNat_lt
    have lb := b.toNat_lt
    have lc := c.toNat_lt
    simp only [List.forall_mem_cons]
    exact ⟨hsymbol _ (by omega), hsymbol _ (by omega), hsymbol _ (by omega), hsymbol _ (by omega), ih⟩

end Rollmark.Base64
