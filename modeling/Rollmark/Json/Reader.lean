/-
Reading JSON. A value is built from its tokens with a stack of the arrays and objects that are
still open, so a text may nest as deeply as it likes.
-/
import Rollmark.Json.Token

namespace Rollmark.Json

/-- An open array or object, its parts newest first. -/
inductive Frame where
  | array (items : List Json)
  /-- The name is the one whose value is being read. -/
  | object (members : List (Option String × Json)) (name : Option String)

/-- What has to come next. -/
inductive Expected where
  | value
  | itemOrEnd
  | name (members : List (Option String × Json))
  | nameOrEnd
  | colon (members : List (Option String × Json)) (name : Option String)
  | commaOrEnd (value : Json)

/-- A reading under way: the open frames, innermost first, and what has to come next. -/
structure Reading where
  frames : List Frame
  expected : Expected

/-- An object from its members, newest first. -/
def object? (members : List (Option String × Json)) : Json :=
  match members.reverse.mapM fun (name, v) => name.map (·, v) with
  | some readable => .object readable
  | none => .unreadable

/-- The reading after a token, if the token is allowed there. -/
def Reading.step (r : Reading) (t : Token) : Option Reading :=
  let opened (frames : List Frame) : Option Reading :=
    match t with
    | .openArray => some ⟨.array [] :: frames, .itemOrEnd⟩
    | .openObject => some ⟨frames, .nameOrEnd⟩
    | .null => some ⟨frames, .commaOrEnd .null⟩
    | .bool b => some ⟨frames, .commaOrEnd (.bool b)⟩
    | .integer n => some ⟨frames, .commaOrEnd (.integer n)⟩
    | .decimal d => some ⟨frames, .commaOrEnd (.decimal d)⟩
    | .string (some s) => some ⟨frames, .commaOrEnd (.string s)⟩
    | .string none => some ⟨frames, .commaOrEnd .unreadable⟩
    | _ => none
  match r.expected, t, r.frames with
  | .value, _, frames => opened frames
  | .itemOrEnd, .closeArray, .array _ :: frames => some ⟨frames, .commaOrEnd (.array [])⟩
  | .itemOrEnd, _, frames => opened frames
  | .nameOrEnd, .closeObject, frames => some ⟨frames, .commaOrEnd (.object [])⟩
  | .nameOrEnd, .string name, frames => some ⟨frames, .colon [] name⟩
  | .name members, .string name, frames => some ⟨frames, .colon members name⟩
  | .colon members name, .colon, frames => some ⟨.object members name :: frames, .value⟩
  | .commaOrEnd v, .comma, .array items :: frames => some ⟨.array (v :: items) :: frames, .value⟩
  | .commaOrEnd v, .closeArray, .array items :: frames =>
    some ⟨frames, .commaOrEnd (.array (v :: items).reverse)⟩
  | .commaOrEnd v, .comma, .object members name :: frames =>
    some ⟨frames, .name ((name, v) :: members)⟩
  | .commaOrEnd v, .closeObject, .object members name :: frames =>
    some ⟨frames, .commaOrEnd (object? ((name, v) :: members))⟩
  | _, _, _ => none

/-- The reading after a row of tokens. -/
def Reading.run (r : Reading) : List Token → Option Reading
  | [] => some r
  | t :: rest =>
    match r.step t with
    | some r' => r'.run rest
    | none => none

/-- The value that a row of tokens writes. -/
def ofTokens? (tokens : List Token) : Option Json :=
  match Reading.run ⟨[], .value⟩ tokens with
  | some ⟨[], .commaOrEnd v⟩ => some v
  | _ => none

/-- Reads a JSON text: one value, with white space around its tokens. -/
def parse? (s : String) : Option Json := (Token.lex s.toList).bind ofTokens?

end Rollmark.Json
