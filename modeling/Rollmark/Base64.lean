/-
Base64 with the standard alphabet and padding. Three bytes become four symbols; one or two bytes at
the end are padded to four. Only what the encoder writes is decoded: the padding has to be there
and the bits that it leaves unused have to be zero.
-/
namespace Rollmark.Base64

/-- The symbol for a number below 64. -/
def symbol (n : Nat) : Char :=
  if n < 26 then Char.ofNat (0x41 + n)
  else if n < 52 then Char.ofNat (0x61 + (n - 26))
  else if n < 62 then Char.ofNat (0x30 + (n - 52))
  else if n = 62 then '+'
  else '/'

/-- The number that a symbol stands for. -/
def value? (c : Char) : Option Nat :=
  if 'A' ≤ c && c ≤ 'Z' then some (c.toNat - 0x41)
  else if 'a' ≤ c && c ≤ 'z' then some (c.toNat - 0x61 + 26)
  else if c.isDigit then some (c.toNat - 0x30 + 52)
  else if c == '+' then some 62
  else if c == '/' then some 63
  else none

/-- The symbols of a row of bytes. -/
def encode : List UInt8 → List Char
  | [] => []
  | [a] => [symbol (a.toNat / 4), symbol (a.toNat % 4 * 16), '=', '=']
  | [a, b] =>
    [symbol (a.toNat / 4), symbol (a.toNat % 4 * 16 + b.toNat / 16), symbol (b.toNat % 16 * 4), '=']
  | a :: b :: c :: rest =>
    symbol (a.toNat / 4) :: symbol (a.toNat % 4 * 16 + b.toNat / 16)
      :: symbol (b.toNat % 16 * 4 + c.toNat / 64) :: symbol (c.toNat % 64) :: encode rest

/-- The bytes of a row of symbols. -/
def decode? : List Char → Option (List UInt8)
  | [] => some []
  | [a, b, '=', '='] =>
    match value? a, value? b with
    | some x, some y => if y % 16 = 0 then some [(x * 4 + y / 16).toUInt8] else none
    | _, _ => none
  | [a, b, c, '='] =>
    match value? a, value? b, value? c with
    | some x, some y, some z =>
      if z % 4 = 0 then some [(x * 4 + y / 16).toUInt8, (y % 16 * 16 + z / 4).toUInt8] else none
    | _, _, _ => none
  | a :: b :: c :: d :: rest =>
    match value? a, value? b, value? c, value? d, decode? rest with
    | some x, some y, some z, some w, some bytes =>
      some ((x * 4 + y / 16).toUInt8 :: (y % 16 * 16 + z / 4).toUInt8
        :: (z % 4 * 64 + w).toUInt8 :: bytes)
    | _, _, _, _, _ => none
  | _ => none

end Rollmark.Base64
