/-
YAML documents that hold one mapping of scalars, in block or in flow style, with comments and the
marks around a document. Anything else is refused: deeper collections, sequences, tags, anchors,
directives and block scalars.
-/
import Rollmark.Yaml.Scalar

namespace Rollmark.Yaml

/-! ## Characters -/

/-- A character that may stand in a document. -/
def isAllowed (c : Char) : Bool :=
  let n := c.toNat
  n == 0x09 || n == 0x0A || n == 0x0D || (0x20 ≤ n && n ≤ 0x7E) || n == 0x85
    || (0xA0 ≤ n && n ≤ 0xFFFD) || 0x10000 ≤ n

/-- A text in which a carriage return, with or without a line feed, and a next line are line
feeds. -/
def unifyBreaks : List Char → List Char
  | [] => []
  | '\r' :: '\n' :: rest => '\n' :: unifyBreaks rest
  | c :: rest => (if c == '\r' || c.toNat == 0x85 then '\n' else c) :: unifyBreaks rest

/-! ## Between scalars -/

/-- Skips blanks, comments and line breaks. In block style no tab is skipped where a key may
stand. -/
def skipSpace (flow inComment : Bool) (column : Option Nat) : List Char → Cursor
  | [] => ⟨[], column⟩
  | c :: rest =>
    if isBreak c then skipSpace flow false (some 0) rest
    else if inComment || c == ' ' || (c == '\t' && (flow || column.isNone)) then
      skipSpace flow inComment (column.map (· + 1)) rest
    else if c == '#' then skipSpace flow true column rest
    else ⟨c :: rest, column⟩

namespace Cursor

/-- The beginning of a text. A byte order mark there takes up a column. -/
def ofText (cs : List Char) : Cursor :=
  match Text.dropLead? [Char.ofNat 0xFEFF] cs with
  | some rest => ⟨unifyBreaks rest, some 1⟩
  | none => ⟨unifyBreaks cs, some 0⟩

/-- The place of the next token in block style. -/
def next (c : Cursor) : Cursor := skipSpace false false c.column c.rest

/-- The text behind a mark of the document, if it has the first column of its line here. -/
def dropMark? (mark : String) (c : Cursor) : Option (List Char) :=
  if c.column == some 0 then Yaml.dropMark? mark c.rest else none

/-- Whether a document begins or ends here with a mark. -/
def isMark (c : Cursor) : Bool := c.column == some 0 && Yaml.isMark c.rest

/-- Passes so many of the marks that end a document, and the comments around them. -/
def skipEnds : Nat → Cursor → Cursor
  | 0, c => c
  | steps + 1, c =>
    match c.dropMark? "..." with
    | some rest => skipEnds steps (next ⟨rest, none⟩)
    | none => c

/-- Whether the text ends here, but for marks that end the document and comments. -/
def isEnd (c : Cursor) : Bool := (c.skipEnds c.rest.length).rest.isEmpty

end Cursor

/-- The text from the next token on in flow style, which a mark of the document cuts off. -/
def flowNext (cs : List Char) : List Char :=
  let cursor := skipSpace true false none cs
  if cursor.isMark then [] else cursor.rest

/-- The most characters from the beginning of a key to its colon. -/
def keyLimit : Nat := 1024

/-- A key that is a scalar within its line, and what stands behind its colon. -/
def key? (flow : Bool) (cs : List Char) : Option (Scalar × List Char) :=
  let line := cs.takeWhile (!isBreak ·)
  match scalar? flow 0 line with
  | some (key, cursor) =>
    match cursor.rest.dropWhile isGap with
    | ':' :: rest =>
      if line.length ≤ keyLimit + 1 + rest.length && ((flow && !key.plain) || spaceNext rest) then
        some (key, rest ++ cs.dropWhile (!isBreak ·))
      else none
    | _ => none
  | none => none

/-! ## Block style -/

/-- A scalar that stands further to the right than its mapping if it has a line of its own, and the
place behind it. -/
def indented? (indent : Nat) (start : Cursor) : Option (Scalar × Cursor) :=
  let cursor := start.next
  if cursor.rest.isEmpty || cursor.column.any (· ≤ indent) then some (.nothing, cursor)
  else scalar? false (indent + 1) cursor.rest

/-- An entry of a mapping at a column, and the place behind it. A key behind a question mark may
have several lines; its colon then begins a line, or is missing with the value. -/
def blockEntry? (indent : Nat) (cs : List Char) : Option ((Scalar × Scalar) × Cursor) :=
  match dropMark? "?" cs with
  | some rest =>
    match indented? indent ⟨rest, some (indent + 1)⟩ with
    | some (key, cursor) =>
      let next := cursor.next
      match if next.column == some indent then dropMark? ":" next.rest else none with
      | some rest' =>
        (indented? indent ⟨rest', some (indent + 1)⟩).map fun (value, cursor') =>
          ((key, value), cursor')
      | none => some ((key, .nothing), next)
    | none => none
  | none =>
    match key? false cs with
    | some (key, rest) =>
      (indented? indent ⟨rest, none⟩).map fun (value, cursor) => ((key, value), cursor)
    | none => none

/-- The entries of a mapping at a column, from the place of a key on. Every entry takes at least one
character, so as many steps as there are characters suffice. -/
def blockEntries? (indent : Nat) : Nat → List Char → Option (List (Scalar × Scalar))
  | 0, _ => none
  | steps + 1, cs =>
    match blockEntry? indent cs with
    | none => none
    | some (entry, cursor) =>
      let next := cursor.next
      if next.isEnd then some [entry]
      else if next.column == some indent then
        (blockEntries? indent steps next.rest).map (entry :: ·)
      else none

/-! ## Flow style -/

/-- The scalar that stands next, and what stands behind it. It may be missing in front of a comma or
the closing brace. -/
def flowScalar? (cs : List Char) : Option (Scalar × List Char) :=
  match flowNext cs with
  | ',' :: rest => some (.nothing, ',' :: rest)
  | '\x7d' :: rest => some (.nothing, '\x7d' :: rest)
  | rest => (scalar? true 0 rest).map fun (scalar, cursor) => (scalar, cursor.rest)

/-- An entry, and what stands behind it. A scalar without a colon is a key without a value. A key
behind a question mark may have several lines. -/
def flowEntry? (cs : List Char) : Option ((Scalar × Scalar) × List Char) :=
  match cs with
  | '?' :: rest =>
    match flowScalar? rest with
    | some (key, behind) =>
      match flowNext behind with
      | ':' :: behind => (flowScalar? behind).map fun (value, rest') => ((key, value), rest')
      | rest' => some ((key, .nothing), rest')
    | none => none
  | _ =>
    match key? true cs with
    | some (key, rest) => (flowScalar? rest).map fun (value, rest') => ((key, value), rest')
    | none => (scalar? true 0 cs).map fun (key, cursor) => ((key, .nothing), cursor.rest)

/-- The entries of a mapping up to its closing brace, and what stands behind it. Every entry takes
at least one character, so as many steps as there are characters suffice. -/
def flowEntries? : Nat → List Char → Option (List (Scalar × Scalar) × List Char)
  | 0, _ => none
  | steps + 1, cs =>
    match flowNext cs with
    | '\x7d' :: rest => some ([], rest)
    | cs' =>
      match flowEntry? cs' with
      | none => none
      | some (entry, rest) =>
        match flowNext rest with
        | '\x7d' :: rest => some ([entry], rest)
        | ',' :: rest =>
          (flowEntries? steps rest).map fun (entries, rest') => (entry :: entries, rest')
        | _ => none

/-! ## Documents -/

/-- The entries of the mapping that begins here, up to the end of the document. Without any text
there are none. -/
def content? (start : Cursor) : Option (List (Scalar × Scalar)) :=
  if start.rest.isEmpty then some []
  else if start.isMark then none
  else
    match start.rest with
    | '\x7b' :: rest =>
      match flowEntries? (rest.length + 1) rest with
      | some (entries, rest') => if (Cursor.next ⟨rest', none⟩).isEnd then some entries else none
      | none => none
    | cs => start.column.bind fun indent => blockEntries? indent (cs.length + 1) cs

/-- The entries of the one mapping that a document holds; an empty document holds none. A document
ends with a mark only if it has begun, with a mark or a mapping. -/
def mapping? (text : String) : Option (List (Scalar × Scalar)) :=
  if text.toList.all isAllowed then
    let start := (Cursor.ofText text.toList).next
    match start.dropMark? "---" with
    | some rest =>
      let content := Cursor.next ⟨rest, none⟩
      if content.isEnd then some [] else content? content
    | none => content? start
  else none

end Rollmark.Yaml
