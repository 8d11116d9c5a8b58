/-
YAML scalars, plain and quoted. A scalar may run over several lines; its line breaks are folded:
the blanks around a break go, one line feed is read as a blank, and of more breaks all but the first
stay. A line or paragraph separator breaks a line like a line feed, but stays where it is the first.
-/
import Rollmark.Json.Token
import Rollmark.Text.Scan

namespace Rollmark.Yaml

/-- A scalar: its text, and whether it stands without quotes. -/
structure Scalar where
  text : String
  plain : Bool
deriving DecidableEq

/-- The scalar of a missing value. -/
def Scalar.nothing : Scalar := ⟨"", true⟩

/-! ## Places in a text -/

/-- A place in a text: what stands behind it, and the column, which is known where a key may stand:
once only spaces were passed since the line or the entry began. -/
structure Cursor where
  rest : List Char
  column : Option Nat

/-- A blank within a line. -/
def isGap (c : Char) : Bool := c == ' ' || c == '\t'

/-- A character that ends a line: a line feed, a line separator or a paragraph separator. -/
def isBreak (c : Char) : Bool := c == '\n' || c.toNat == 0x2028 || c.toNat == 0x2029

/-- A blank or the end of a line. -/
def isSpace (c : Char) : Bool := isGap c || isBreak c

/-- Whether a blank, the end of a line or the end of the text comes next. -/
def spaceNext (cs : List Char) : Bool := cs.head?.all isSpace

/-- The text behind a mark, which has to stand before a blank or the end of its line. -/
def dropMark? (mark : String) (cs : List Char) : Option (List Char) :=
  (Text.dropLead? mark.toList cs).filter spaceNext

/-- Whether a mark begins or ends a document here. -/
def isMark (cs : List Char) : Bool := (dropMark? "---" cs).isSome || (dropMark? "..." cs).isSome

/-! ## Gaps -/

/-- What stands between two runs of characters in a scalar. -/
inductive Gap where
  /-- Blanks within a line. -/
  | blanks (cs : List Char)
  /-- A line break, and the breaks behind it. -/
  | folded (first : Char) (more : List Char)
  /-- The breaks behind a line break with a backslash in front of it. -/
  | joined (more : List Char)

namespace Gap

/-- What a gap is read as. -/
def text : Gap → List Char
  | .blanks cs => cs
  | .folded '\n' [] => [' ']
  | .folded '\n' more => more
  | .folded first more => first :: more
  | .joined more => more

/-- A gap with one more blank. -/
def addBlank (c : Char) : Gap → Gap
  | .blanks cs => .blanks (cs ++ [c])
  | gap => gap

/-- A gap with one more line break. -/
def addBreak (c : Char) : Gap → Gap
  | .blanks _ => .folded c []
  | .folded first more => .folded first (more ++ [c])
  | .joined more => .joined (more ++ [c])

/-- Whether a gap goes over the end of a line. -/
def isBroken : Gap → Bool
  | .blanks _ => false
  | _ => true

end Gap

/-! ## Quoted scalars -/

/-- The text between single quotes up to the closing one, and what stands behind it. Two quotes
stand for one. -/
def singleQuoted? (gap : Gap) : List Char → Option (List Char × List Char)
  | [] => none
  | '\'' :: '\'' :: rest =>
    (singleQuoted? (.blanks []) rest).map fun (cs, rest') => (gap.text ++ '\'' :: cs, rest')
  | '\'' :: rest => some (gap.text, rest)
  | c :: rest =>
    if isBreak c then if isMark rest then none else singleQuoted? (gap.addBreak c) rest
    else if isGap c then singleQuoted? (gap.addBlank c) rest
    else (singleQuoted? (.blanks []) rest).map fun (cs, rest') => (gap.text ++ c :: cs, rest')

/-- The character of a one-letter escape. -/
def escaped? : Char → Option Char
  | '0' => some (Char.ofNat 0)
  | 'a' => some (Char.ofNat 7)
  | 'b' => some (Char.ofNat 8)
  | 't' | '\t' => some '\t'
  | 'n' => some '\n'
  | 'v' => some (Char.ofNat 11)
  | 'f' => some (Char.ofNat 12)
  | 'r' => some '\r'
  | 'e' => some (Char.ofNat 27)
  | ' ' => some ' '
  | '"' => some '"'
  | '/' => some '/'
  | '\\' => some '\\'
  | 'N' => some (Char.ofNat 0x85)
  | '_' => some (Char.ofNat 0xA0)
  | 'L' => some (Char.ofNat 0x2028)
  | 'P' => some (Char.ofNat 0x2029)
  | _ => none

/-- How many hexadecimal digits follow the letter of a numbered escape. -/
def numberedLength? : Char → Option Nat
  | 'x' => some 2
  | 'u' => some 4
  | 'U' => some 8
  | _ => none

/-- The character with a number in hexadecimal digits. -/
def numbered? (digits : List Char) : Option Char :=
  (digits.foldlM (fun n c => (Json.hexValue? c).map (16 * n + ·)) 0).bind fun n =>
    if (Char.ofNat n).toNat = n then some (Char.ofNat n) else none

/-- What comes next between double quotes: the digits of a numbered escape that are to be skipped,
or none. -/
def doubleQuoted? (gap : Gap) : Nat → List Char → Option (List Char × List Char)
  | _, [] => none
  | skipped + 1, _ :: rest => doubleQuoted? gap skipped rest
  | 0, '"' :: rest => some (gap.text, rest)
  | 0, '\\' :: e :: rest =>
    if isBreak e then
      if isMark rest then none
      else (doubleQuoted? (.joined []) 0 rest).map fun (cs, rest') => (gap.text ++ cs, rest')
    else
      let (char, length) :=
        match numberedLength? e with
        | some n => (if n ≤ rest.length then numbered? (rest.take n) else none, n)
        | none => (escaped? e, 0)
      match char, doubleQuoted? (.blanks []) length rest with
      | some c, some (cs, rest') => some (gap.text ++ c :: cs, rest')
      | _, _ => none
  | 0, c :: rest =>
    if isBreak c then if isMark rest then none else doubleQuoted? (gap.addBreak c) 0 rest
    else if isGap c then doubleQuoted? (gap.addBlank c) 0 rest
    else if c == '\\' then none
    else (doubleQuoted? (.blanks []) 0 rest).map fun (cs, rest') => (gap.text ++ c :: cs, rest')

/-- A quoted scalar in front of a text, and what stands behind it. -/
def quoted? : List Char → Option (Scalar × List Char)
  | '\'' :: rest =>
    (singleQuoted? (.blanks []) rest).map fun (cs, rest') => (⟨String.ofList cs, false⟩, rest')
  | '"' :: rest =>
    (doubleQuoted? (.blanks []) 0 rest).map fun (cs, rest') => (⟨String.ofList cs, false⟩, rest')
  | _ => none

/-! ## Plain scalars -/

/-- A character with which no plain scalar begins. -/
def isIndicator (c : Char) : Bool := ",[]\x7b\x7d#&*!|>'\"%@\x60".toList.contains c

/-- A character that ends a plain scalar in the flow style. -/
def isFlowMark (c : Char) : Bool := ",[]\x7b\x7d".toList.contains c

/-- Whether a plain scalar may begin here. -/
def startsPlain (flow : Bool) : List Char → Bool
  | [] => false
  | c :: rest =>
    if c == '-' then !spaceNext rest
    else if c == '?' || c == ':' then !flow && !spaceNext rest
    else !isIndicator c && !isSpace c

/-- Whether a colon comes next that may not stand in a plain scalar of the flow style. -/
def isStrayColon (flow : Bool) : List Char → Bool
  | ':' :: c :: _ => flow && (isFlowMark c || c == '?')
  | _ => false

/-- Whether a plain scalar ends here: before the colon of a key or a mark of the flow style. -/
def endsPlain (flow : Bool) : List Char → Bool
  | [] => true
  | c :: rest => (c == ':' && spaceNext rest) || (flow && isFlowMark c)

/-- Whether a plain scalar ends behind a gap: before a comment, a mark of the document, or a column
that is not far enough to the right. -/
def endsBehind (flow : Bool) (indent column : Nat) (gap : Gap) (cs : List Char) : Bool :=
  cs.head? == some '#'
    || (gap.isBroken && ((!flow && column < indent) || (column == 0 && isMark cs)))

/-- The text of a plain scalar, and the place behind it. `gap` is what was passed since the last
character, and its lines have to go as far to the right as `indent`. -/
def plainText? (flow : Bool) (indent : Nat) (gap : Gap) (column : Nat) :
    List Char → Option (List Char × Cursor)
  | [] => some ([], ⟨[], if gap.isBroken then some column else none⟩)
  | c :: rest =>
    let here : List Char × Cursor := ([], ⟨c :: rest, if gap.isBroken then some column else none⟩)
    if isBreak c then plainText? flow indent (gap.addBreak c) 0 rest
    else if isGap c then
      if c == '\t' && gap.isBroken && column < indent then none
      else plainText? flow indent (gap.addBlank c) (column + 1) rest
    else if !gap.text.isEmpty && endsBehind flow indent column gap (c :: rest) then some here
    else if isStrayColon flow (c :: rest) then none
    else if endsPlain flow (c :: rest) then some here
    else
      (plainText? flow indent (.blanks []) (column + 1) rest).map fun (cs, cursor) =>
        (gap.text ++ c :: cs, cursor)

/-- A scalar in front of a text, and the place behind it. -/
def scalar? (flow : Bool) (indent : Nat) (cs : List Char) : Option (Scalar × Cursor) :=
  if cs.head? == some '\'' || cs.head? == some '"' then
    (quoted? cs).map fun (scalar, rest) => (scalar, ⟨rest, none⟩)
  else if startsPlain flow cs then
    (plainText? flow indent (.blanks []) 0 cs).map fun (text, cursor) =>
      (⟨String.ofList text, true⟩, cursor)
  else none

/-! ## What a scalar stands for -/

namespace Scalar

/-- A truth value. -/
def flag? (s : Scalar) : Option Bool :=
  if !s.plain then none
  else
    match s.text with
    | "true" | "True" | "TRUE" => some true
    | "false" | "False" | "FALSE" => some false
    | _ => none

/-- The number that digits of a base stand for. -/
def digitsValue? (base : Nat) (cs : List Char) : Option Nat :=
  if cs.isEmpty then none
  else cs.foldlM (fun n c => ((Json.hexValue? c).filter (· < base)).map (base * n + ·)) 0

/-- A natural number: in decimal without leading zeros, or behind `0x`, `0o` or `0b`. -/
def natural? (s : Scalar) : Option Nat :=
  if !s.plain then none
  else
    match Text.skip '+' s.text.toList with
    | '0' :: 'x' :: cs => digitsValue? 16 cs
    | '0' :: 'o' :: cs => digitsValue? 8 cs
    | '0' :: 'b' :: cs => digitsValue? 2 cs
    | '0' :: _ :: _ => none
    | cs => Text.natural? cs

/-- Whether a scalar stands for no value. -/
def isNull (s : Scalar) : Bool :=
  s.plain && (s.text == "" || s.text == "~" || s.text == "null" || s.text == "Null"
    || s.text == "NULL")

end Scalar

end Rollmark.Yaml
