/-
White space. A character is blank when it has the Unicode property White_Space; a text is trimmed
by dropping the blanks at its ends.
-/
namespace Rollmark.Text

/-- The Unicode property White_Space. -/
def isBlank (c : Char) : Bool :=
  let n := c.toNat
  (0x09 ≤ n && n ≤ 0x0D) || n == 0x20 || n == 0x85 || n == 0xA0 || n == 0x1680
    || (0x2000 ≤ n && n ≤ 0x200A) || n == 0x2028 || n == 0x2029 || n == 0x202F || n == 0x205F
    || n == 0x3000

/-- Drops the blanks in front. -/
def trimStart (cs : List Char) : List Char := cs.dropWhile isBlank

/-- Drops the blanks at the end. -/
def trimEnd (cs : List Char) : List Char := (cs.reverse.dropWhile isBlank).reverse

/-- Drops the blanks at both ends. -/
def trim (cs : List Char) : List Char := trimEnd (trimStart cs)

/-- A text without the blanks at its ends. -/
def trimmed (s : String) : String := String.ofList (trim s.toList)

/-- A text without the blanks at its end. -/
def trimmedEnd (s : String) : String := String.ofList (trimEnd s.toList)

end Rollmark.Text
