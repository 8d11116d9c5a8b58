/-
Text files. A file that opens with a byte order mark is read in the encoding that the mark names,
and what the encoding does not allow becomes U+FFFD; a file without a mark has to be UTF-8 to the
last byte.
-/
namespace Rollmark.Text

/-- An encoding that a byte order mark can name. -/
inductive Encoding where
  | utf8
  | utf16LittleEndian
  | utf16BigEndian
deriving DecidableEq

/-- Stands for what an encoding does not allow. -/
def replacement : Char := Char.ofNat 0xFFFD

namespace Encoding

/-- The encoding that the byte order mark in front names, and the bytes behind the mark. -/
def mark? : List UInt8 → Option (Encoding × List UInt8)
  | 0xEF :: 0xBB :: 0xBF :: rest => some (.utf8, rest)
  | 0xFF :: 0xFE :: rest => some (.utf16LittleEndian, rest)
  | 0xFE :: 0xFF :: rest => some (.utf16BigEndian, rest)
  | _ => none

/-! ## UTF-8 -/

/-- A character of which some bytes are still owed; the next one lies between two limits. -/
structure Unfinished where
  owed : Nat
  low : Nat
  high : Nat
  point : Nat

/-- Where a decoder stands: the unfinished character, and the characters before it, newest first. -/
structure Decoded where
  unfinished? : Option Unfinished
  newest : List Char

/-- The first byte of a character. -/
def firstByte (out : List Char) (b : Nat) : Decoded :=
  if b ≤ 0x7F then ⟨none, Char.ofNat b :: out⟩
  else if 0xC2 ≤ b && b ≤ 0xDF then ⟨some ⟨1, 0x80, 0xBF, b - 0xC0⟩, out⟩
  else if b == 0xE0 then ⟨some ⟨2, 0xA0, 0xBF, 0⟩, out⟩
  else if b == 0xED then ⟨some ⟨2, 0x80, 0x9F, 0xD⟩, out⟩
  else if 0xE1 ≤ b && b ≤ 0xEF then ⟨some ⟨2, 0x80, 0xBF, b - 0xE0⟩, out⟩
  else if b == 0xF0 then ⟨some ⟨3, 0x90, 0xBF, 0⟩, out⟩
  else if b == 0xF4 then ⟨some ⟨3, 0x80, 0x8F, 4⟩, out⟩
  else if 0xF1 ≤ b && b ≤ 0xF3 then ⟨some ⟨3, 0x80, 0xBF, b - 0xF0⟩, out⟩
  else ⟨none, replacement :: out⟩

/-- One more byte. A byte that cannot continue the unfinished character closes it with U+FFFD and
starts the next one. -/
def byte (d : Decoded) (b : UInt8) : Decoded :=
  match d.unfinished? with
  | none => firstByte d.newest b.toNat
  | some p =>
    let n := b.toNat
    if p.low ≤ n && n ≤ p.high then
      let point := p.point * 0x40 + (n - 0x80)
      if p.owed ≤ 1 then ⟨none, Char.ofNat point :: d.newest⟩
      else ⟨some ⟨p.owed - 1, 0x80, 0xBF, point⟩, d.newest⟩
    else firstByte (replacement :: d.newest) n

/-- The characters of a byte sequence read as UTF-8. -/
def readUtf8 (bytes : List UInt8) : List Char :=
  let d := bytes.foldl byte ⟨none, []⟩
  (if d.unfinished?.isSome then replacement :: d.newest else d.newest).reverse

/-! ## UTF-16 -/

/-- The sixteen-bit units of a byte sequence, and whether one byte is left over. -/
def units (big : Bool) : List UInt8 → List Nat × Bool
  | [] => ([], false)
  | [_] => ([], true)
  | a :: b :: rest =>
    let unit := if big then a.toNat * 0x100 + b.toNat else b.toNat * 0x100 + a.toNat
    let (more, odd) := units big rest
    (unit :: more, odd)

/-- The first half of a surrogate pair. -/
def isHighHalf (u : Nat) : Bool := 0xD800 ≤ u && u ≤ 0xDBFF

/-- The second half of a surrogate pair. -/
def isLowHalf (u : Nat) : Bool := 0xDC00 ≤ u && u ≤ 0xDFFF

/-- The character of a surrogate pair. -/
def pairChar (high low : Nat) : Char :=
  Char.ofNat (0x10000 + (high - 0xD800) * 0x400 + (low - 0xDC00))

/-- The characters of a row of units; `odd` says that one byte follows the last unit. Half of a
pair on its own becomes U+FFFD, and so does a byte left over. -/
def readUnits (odd : Bool) : List Nat → List Char
  | [] => if odd then [replacement] else []
  | [u] =>
    if isHighHalf u || isLowHalf u then
      if isLowHalf u && odd then [replacement, replacement] else [replacement]
    else if odd then [Char.ofNat u, replacement] else [Char.ofNat u]
  | u :: v :: rest =>
    if isHighHalf u then
      if isLowHalf v then pairChar u v :: readUnits odd rest
      else replacement :: readUnits odd (v :: rest)
    else if isLowHalf u then replacement :: readUnits odd (v :: rest)
    else Char.ofNat u :: readUnits odd (v :: rest)

/-- The characters of a byte sequence in an encoding. -/
def read (e : Encoding) (bytes : List UInt8) : List Char :=
  match e with
  | .utf8 => readUtf8 bytes
  | .utf16LittleEndian => let (us, odd) := units false bytes; readUnits odd us
  | .utf16BigEndian => let (us, odd) := units true bytes; readUnits odd us

end Encoding

/-- The text of bytes that have to be UTF-8. -/
def strictUtf8? (bytes : List UInt8) : Option String :=
  String.fromUTF8? (ByteArray.mk bytes.toArray)

/-- The text of a file. A second byte order mark right behind the first one is dropped too, and it
is the one that names the encoding. -/
def ofFile? (bytes : List UInt8) : Option String :=
  match Encoding.mark? bytes with
  | none => strictUtf8? bytes
  | some (e, rest) =>
    match Encoding.mark? rest with
    | none => some (String.ofList (e.read rest))
    | some (e', rest') => some (String.ofList (e'.read rest'))

/-- The bytes of a text in UTF-8. -/
def utf8Bytes (s : String) : List UInt8 := s.toUTF8.data.toList

end Rollmark.Text
