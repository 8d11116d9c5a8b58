/-
Tokens of a JSON text. `Token.text` writes one and `Token.scan` takes one off the front of a text;
`Token.lex` takes a whole text apart. Each step leaves a shorter text, so lexing ends.
-/
import Rollmark.Json

namespace Rollmark.Json

/-- A mark, a word, a number or a string of a JSON text. -/
inductive Token where
  | openArray
  | closeArray
  | openObject
  | closeObject
  | comma
  | colon
  | null
  | bool (b : Bool)
  | integer (n : Int)
  | decimal (d : Decimal)
  /-- A string; `none` when it holds half of a surrogate pair. -/
  | string (s : Option String)
deriving DecidableEq

/-! ## Writing -/

/-- The hexadecimal digit for a number below sixteen. -/
def hexDigit (n : Nat) : Char :=
  if n < 10 then Char.ofNat (0x30 + n) else Char.ofNat (0x57 + n)

/-- A character inside a string: quotes, backslashes and control characters are escaped. -/
def escape (c : Char) : List Char :=
  if c == '"' then ['\\', '"']
  else if c == '\\' then ['\\', '\\']
  else if c.toNat == 0x08 then ['\\', 'b']
  else if c.toNat == 0x09 then ['\\', 't']
  else if c.toNat == 0x0A then ['\\', 'n']
  else if c.toNat == 0x0C then ['\\', 'f']
  else if c.toNat == 0x0D then ['\\', 'r']
  else if c.toNat < 0x20 then
    ['\\', 'u', '0', '0', hexDigit (c.toNat / 16), hexDigit (c.toNat % 16)]
  else [c]

/-- A decimal as it is written. -/
def decimalText (d : Decimal) : List Char :=
  (if d.negative then ['-'] else []) ++ d.whole
    ++ (if d.fraction.isEmpty then [] else '.' :: d.fraction)
    ++ (if d.exponent.isEmpty then [] else 'e' :: d.exponent)

/-- The text of a token. -/
def Token.text : Token → List Char
  | .openArray => ['[']
  | .closeArray => [']']
  | .openObject => ['\x7b']
  | .closeObject => ['\x7d']
  | .comma => [',']
  | .colon => [':']
  | .null => ['n', 'u', 'l', 'l']
  | .bool true => ['t', 'r', 'u', 'e']
  | .bool false => ['f', 'a', 'l', 's', 'e']
  | .integer n => Text.integerDigits n
  | .decimal d => decimalText d
  | .string (some s) => '"' :: (s.toList.flatMap escape ++ ['"'])
  | .string none => ['"', '\\', 'u', 'd', '8', '0', '0', '"']

/-! ## Scanning strings -/

/-- What a string is written with: a character, or the number of a `\u` escape. -/
inductive Piece where
  | char (c : Char)
  | unit (n : Nat)

/-- The value of a hexadecimal digit in either case. -/
def hexValue? (c : Char) : Option Nat :=
  if c.isDigit then some (c.toNat - 0x30)
  else if 'a' ≤ c && c ≤ 'f' then some (c.toNat - 0x57)
  else if 'A' ≤ c && c ≤ 'F' then some (c.toNat - 0x37)
  else none

/-- The number that four hexadecimal digits stand for. -/
def hexUnit? (a b c d : Char) : Option Nat := do
  some (((← hexValue? a) * 16 + (← hexValue? b)) * 256 + (← hexValue? c) * 16 + (← hexValue? d))

/-- The character that a one-letter escape stands for. -/
def escaped? : Char → Option Char
  | '"' => some '"'
  | '\\' => some '\\'
  | '/' => some '/'
  | 'b' => some (Char.ofNat 0x08)
  | 'f' => some (Char.ofNat 0x0C)
  | 'n' => some '\n'
  | 'r' => some '\r'
  | 't' => some '\t'
  | _ => none

/-- The pieces of a string up to its closing quote, and the text behind it. -/
def stringBody : List Char → Option (List Piece × List Char)
  | [] => none
  | '"' :: rest => some ([], rest)
  | '\\' :: 'u' :: a :: b :: c :: d :: rest =>
    match hexUnit? a b c d, stringBody rest with
    | some n, some (pieces, rest') => some (.unit n :: pieces, rest')
    | _, _ => none
  | '\\' :: e :: rest =>
    match escaped? e, stringBody rest with
    | some c, some (pieces, rest') => some (.char c :: pieces, rest')
    | _, _ => none
  | c :: rest =>
    if c.toNat < 0x20 || c == '\\' then none
    else
      match stringBody rest with
      | some (pieces, rest') => some (.char c :: pieces, rest')
      | none => none

/-- The characters of a string's pieces. Two escapes can stand for the halves of one character; a
half on its own has no text. -/
def pieceChars? : List Piece → Option (List Char)
  | [] => some []
  | .char c :: rest => (pieceChars? rest).map (c :: ·)
  | .unit n :: .unit m :: rest =>
    if 0xD800 ≤ n && n ≤ 0xDBFF then
      if 0xDC00 ≤ m && m ≤ 0xDFFF then
        (pieceChars? rest).map (Char.ofNat (0x10000 + (n - 0xD800) * 0x400 + (m - 0xDC00)) :: ·)
      else none
    else if 0xDC00 ≤ n && n ≤ 0xDFFF then none
    else (pieceChars? (.unit m :: rest)).map (Char.ofNat n :: ·)
  | .unit n :: rest =>
    if 0xD800 ≤ n && n ≤ 0xDFFF then none
    else (pieceChars? rest).map (Char.ofNat n :: ·)

/-! ## Scanning numbers -/

/-- The digits in front of a text, at least one, and the text behind them. -/
def digitRun? (cs : List Char) : Option (List Char × List Char) :=
  match cs.takeWhile Char.isDigit with
  | [] => none
  | ds => some (ds, cs.dropWhile Char.isDigit)

/-- The whole part of a number: a zero alone, or digits that begin with another one. -/
def wholePart? : List Char → Option (List Char × List Char)
  | '0' :: rest => some (['0'], rest)
  | cs => digitRun? cs

/-- The fraction of a number, empty when no point follows. -/
def fractionPart? : List Char → Option (List Char × List Char)
  | '.' :: rest => digitRun? rest
  | cs => some ([], cs)

/-- The digits of an exponent with their sign. -/
def exponentDigits? : List Char → Option (List Char × List Char)
  | '+' :: rest => (digitRun? rest).map fun (ds, rest') => ('+' :: ds, rest')
  | '-' :: rest => (digitRun? rest).map fun (ds, rest') => ('-' :: ds, rest')
  | cs => digitRun? cs

/-- The exponent of a number, empty when neither `e` nor `E` follows. -/
def exponentPart? : List Char → Option (List Char × List Char)
  | 'e' :: rest => exponentDigits? rest
  | 'E' :: rest => exponentDigits? rest
  | cs => some ([], cs)

/-- A number without its minus sign. A number with neither fraction nor exponent is an integer,
minus zero apart. -/
def unsignedNumber? (negative : Bool) (cs : List Char) : Option (Token × List Char) :=
  match wholePart? cs with
  | none => none
  | some (whole, rest) =>
    match fractionPart? rest with
    | none => none
    | some (fraction, rest') =>
      match exponentPart? rest' with
      | none => none
      | some (exponent, rest'') =>
        let n := Text.valueOf whole
        if !fraction.isEmpty || !exponent.isEmpty || (negative && n == 0) then
          some (.decimal ⟨negative, whole, fraction, exponent⟩, rest'')
        else some (.integer (if negative then -(n : Int) else n), rest'')

/-- A number in front of a text, and the text behind it. -/
def number? : List Char → Option (Token × List Char)
  | '-' :: rest => unsignedNumber? true rest
  | cs => unsignedNumber? false cs

/-! ## Scanning tokens -/

/-- The token in front of a text, and the text behind it. -/
def Token.scan : List Char → Option (Token × List Char)
  | '[' :: rest => some (.openArray, rest)
  | ']' :: rest => some (.closeArray, rest)
  | '\x7b' :: rest => some (.openObject, rest)
  | '\x7d' :: rest => some (.closeObject, rest)
  | ',' :: rest => some (.comma, rest)
  | ':' :: rest => some (.colon, rest)
  | 'n' :: 'u' :: 'l' :: 'l' :: rest => some (.null, rest)
  | 't' :: 'r' :: 'u' :: 'e' :: rest => some (.bool true, rest)
  | 'f' :: 'a' :: 'l' :: 's' :: 'e' :: rest => some (.bool false, rest)
  | '"' :: rest =>
    (stringBody rest).map fun (pieces, rest') =>
      (.string ((pieceChars? pieces).map String.ofList), rest')
  | cs => number? cs

/-- The four characters that may stand between tokens. -/
def isSpace (c : Char) : Bool := c == ' ' || c == '\t' || c == '\n' || c == '\r'

theorem length_stringBody {cs rest : List Char} {pieces : List Piece}
    (h : stringBody cs = some (pieces, rest)) : rest.length < cs.length := by
  fun_induction stringBody cs generalizing pieces rest with
  | case1 => cases h
  | case2 r => cases h; simp
  | case3 a b c d r n ps r' hs hn ih => cases h; have := ih hs; simp; omega
  | case4 => cases h
  | case5 e r _ c ps r' hs he ih => cases h; have := ih hs; simp; omega
  | case6 => cases h
  | case7 => cases h
  | case8 c r _ _ _ _ ps r' hs ih => cases h; have := ih hs; simp; omega
  | case9 => cases h

theorem length_digitRun? {cs ds rest : List Char} (h : digitRun? cs = some (ds, rest)) :
    rest.length < cs.length := by
  have split : (cs.takeWhile Char.isDigit).length + (cs.dropWhile Char.isDigit).length
      = cs.length := by
    rw [← List.length_append, List.takeWhile_append_dropWhile]
  unfold digitRun? at h
  split at h
  · cases h
  · rename_i hne
    cases h
    have := List.length_pos_iff.mpr hne
    omega

theorem length_wholePart? {cs ds rest : List Char} (h : wholePart? cs = some (ds, rest)) :
    rest.length < cs.length := by
  unfold wholePart? at h
  split at h
  · cases h; simp
  · exact length_digitRun? h

theorem length_fractionPart? {cs ds rest : List Char} (h : fractionPart? cs = some (ds, rest)) :
    rest.length ≤ cs.length := by
  unfold fractionPart? at h
  split at h
  · have := length_digitRun? h; simp; omega
  · cases h; simp

theorem length_exponentDigits? {cs ds rest : List Char}
    (h : exponentDigits? cs = some (ds, rest)) : rest.length < cs.length := by
  unfold exponentDigits? at h
  split at h
  · obtain ⟨⟨ds', rest'⟩, hd, he⟩ := Option.map_eq_some_iff.1 h
    cases he; have := length_digitRun? hd; simp; omega
  · obtain ⟨⟨ds', rest'⟩, hd, he⟩ := Option.map_eq_some_iff.1 h
    cases he; have := length_digitRun? hd; simp; omega
  · exact length_digitRun? h

theorem length_exponentPart? {cs ds rest : List Char} (h : exponentPart? cs = some (ds, rest)) :
    rest.length ≤ cs.length := by
  unfold exponentPart? at h
  split at h
  · have := length_exponentDigits? h; simp; omega
  · have := length_exponentDigits? h; simp; omega
  · cases h; simp

theorem length_unsignedNumber? {negative : Bool} {cs rest : List Char} {t : Token}
    (h : unsignedNumber? negative cs = some (t, rest)) : rest.length < cs.length := by
  unfold unsignedNumber? at h
  split at h
  · cases h
  · rename_i h₁
    split at h
    · cases h
    · rename_i h₂
      split at h
      · cases h
      · rename_i h₃
        have l₁ := length_wholePart? h₁
        have l₂ := length_fractionPart? h₂
        have l₃ := length_exponentPart? h₃
        simp only at h
        split at h <;> cases h <;> omega

theorem length_number? {cs rest : List Char} {t : Token} (h : number? cs = some (t, rest)) :
    rest.length < cs.length := by
  unfold number? at h
  split at h
  · have := length_unsignedNumber? h; simp; omega
  · exact length_unsignedNumber? h

theorem Token.length_scan {cs rest : List Char} {t : Token} (h : Token.scan cs = some (t, rest)) :
    rest.length < cs.length := by
  unfold Token.scan at h
  split at h
  all_goals try (cases h; simp; done)
  all_goals try (cases h; simp; omega)
  · obtain ⟨⟨pieces, rest'⟩, hs, he⟩ := Option.map_eq_some_iff.1 h
    cases he; have := length_stringBody hs; simp; omega
  · exact length_number? h

/-- The tokens of a text. -/
def Token.lex (cs : List Char) : Option (List Token) :=
  match cs with
  | [] => some []
  | c :: rest =>
    if isSpace c then Token.lex rest
    else
      match _h : Token.scan (c :: rest) with
      | none => none
      | some (t, rest') => (Token.lex rest').map (t :: ·)
termination_by cs.length
decreasing_by
  · simp
  · exact Token.length_scan ‹_›

end Rollmark.Json
