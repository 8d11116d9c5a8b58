/-
Writing JSON. The compact form is the tokens of a value with nothing between them; the indented
form puts every item and member on a line of its own.
-/
import Rollmark.Json.Token

namespace Rollmark.Json

mutual
/-- The tokens that write a value. -/
def tokens : Json → List Token
  | .null => [.null]
  | .bool b => [.bool b]
  | .integer n => [.integer n]
  | .decimal d => [.decimal d]
  | .string s => [.string (some s)]
  | .array [] => [.openArray, .closeArray]
  | .array (v :: rest) => .openArray :: (tokens v ++ itemsTokens rest)
  | .object [] => [.openObject, .closeObject]
  | .object ((name, v) :: rest) =>
    .openObject :: .string (some name) :: .colon :: (tokens v ++ membersTokens rest)
  | .unreadable => [.string none]
def itemsTokens : List Json → List Token
  | [] => [.closeArray]
  | v :: rest => .comma :: (tokens v ++ itemsTokens rest)
def membersTokens : List (String × Json) → List Token
  | [] => [.closeObject]
  | (name, v) :: rest =>
    .comma :: .string (some name) :: .colon :: (tokens v ++ membersTokens rest)
end

/-- The compact text of a value. -/
def compact (v : Json) : String := String.ofList (v.tokens.flatMap Token.text)

/-! ## Indented form -/

/-- A part of a laid out text. -/
inductive Mark where
  | token (t : Token)
  /-- A new line that begins with so many steps of two blanks. -/
  | line (indent : Nat)
  | blank

/-- The text of a part. -/
def Mark.text : Mark → List Char
  | .token t => t.text
  | .line indent => '\n' :: List.replicate (2 * indent) ' '
  | .blank => [' ']

mutual
/-- The layout of a value that stands under so many containers. -/
def layout (indent : Nat) : Json → List Mark
  | .array (v :: rest) =>
    .token .openArray :: .line (indent + 1)
      :: (layout (indent + 1) v ++ itemsLayout indent rest)
  | .object ((name, v) :: rest) =>
    .token .openObject :: .line (indent + 1) :: .token (.string (some name)) :: .token .colon
      :: .blank :: (layout (indent + 1) v ++ membersLayout indent rest)
  | v => v.tokens.map .token
def itemsLayout (indent : Nat) : List Json → List Mark
  | [] => [.line indent, .token .closeArray]
  | v :: rest =>
    .token .comma :: .line (indent + 1) :: (layout (indent + 1) v ++ itemsLayout indent rest)
def membersLayout (indent : Nat) : List (String × Json) → List Mark
  | [] => [.line indent, .token .closeObject]
  | (name, v) :: rest =>
    .token .comma :: .line (indent + 1) :: .token (.string (some name)) :: .token .colon
      :: .blank :: (layout (indent + 1) v ++ membersLayout indent rest)
end

/-- The indented text of a value. -/
def pretty (v : Json) : String := String.ofList ((layout 0 v).flatMap Mark.text)

end Rollmark.Json
