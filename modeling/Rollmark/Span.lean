/-
Spans: the content of one pair of brackets is parsed into an action and shown as a span of markup
that carries the action with it, so that it can be recovered without parsing again.
-/
import Rollmark.Action.Wire
import Rollmark.Span.Rule

namespace Rollmark.Span

/-- A shown text and the action in it, if there is one. -/
structure Parsed where
  text : String
  action : Option Action
deriving DecidableEq

/-! ## Parsing -/

/-- The content of a span without the mark for blind rolls. A span of fewer than two characters
has no content to recognize. -/
def body? (text defaultDesc : String) : Option Body :=
  match text.toList with
  | [] | [_] => none
  | '!' :: rest => some ⟨rest, true, defaultDesc⟩
  | cs => some ⟨cs, false, defaultDesc⟩

/-- The first of some rules that recognizes a content, and what it recognizes. -/
def recognize? (body : Body) (rules : List Rule) : Option (Rule × Recognized) :=
  rules.findSome? fun rule => (rule.recognize body).map (rule, ·)

/-- The name of the first of some rules that recognizes a text. -/
def matchingRuleWith? (rules : List Rule) (text : String) : Option String :=
  (body? text "").bind fun body => (recognize? body rules).map (·.1.name)

/-- The name of the rule that recognizes a text. -/
def matchingRule? (text : String) : Option String := matchingRuleWith? rules text

/-! ## Showing -/

/-- What the markup begins with when only the game master sees the result. -/
def blindMark : String := "&lt;Blind Roll&gt; "

/-- The markup of a span of the given class around a content. -/
def markup (className : String) (a : Action) (content : String) : String :=
  "<span class='" ++ className ++ "' data-action='" ++ a.encode ++ "'>" ++ content ++ "</span>"

/-- The class of a modifier's span. -/
def modifierClass (colored positive : Bool) : String :=
  if colored then (if positive then "glinkmodplus" else "glinkmodminus") else "glinkmod"

/-- The markup that shows an action. -/
def render (a : Action) (look : Look) (colored : Bool) : String :=
  match look with
  | .modifier positive => markup (modifierClass colored positive) a a.orig
  | .link text label comment =>
    markup "gurpslink" a
        ((if a.blind then blindMark else "") ++ label ++ String.ofList (Text.trim text))
      ++ (if comment.isEmpty then "" else " " ++ String.ofList comment)
  | .page link => markup "pdflink" a (String.ofList link)

/-- Parses the content of one pair of brackets with the given rules. A text that none of them
recognizes stays as it is. -/
def parseWith (rules : List Rule) (text defaultDesc : String) (colored : Bool) : Parsed :=
  match body? text defaultDesc with
  | none => ⟨text, none⟩
  | some body =>
    match recognize? body rules with
    | none => ⟨text, none⟩
    | some (_, recognized) =>
      let action : Action := ⟨text, body.blind, recognized.kind⟩
      ⟨render action recognized.look colored, some action⟩

/-- Parses the content of one pair of brackets. -/
def parse (text defaultDesc : String) (colored : Bool) : Parsed :=
  parseWith rules text defaultDesc colored

/-- A text without the brackets around it. -/
def stripBrackets (text : String) : String :=
  let cs := Text.trim text.toList
  match (Text.dropLead? ['['] cs).bind (Text.dropEnding? [']']) with
  | some inner => String.ofList inner
  | none => String.ofList cs

/-! ## Recovering -/

/-- Why no action could be recovered. -/
inductive AttachmentError where
  /-- There is no attachment. -/
  | missing
  /-- There is one, and it is no action. -/
  | malformed
deriving DecidableEq

/-- The attachment that begins here, up to its closing quote. -/
def attachment? (cs : List Char) : Option (List Char) := do
  let rest ← Text.dropLead? "data-action='".toList cs
  match rest.dropWhile (· != '\'') with
  | [] => none
  | _ => some (rest.takeWhile (· != '\''))

/-- The action that the first attachment in a text carries. -/
def recover (rendered : String) : Except AttachmentError Action :=
  match Text.firstFound attachment? rendered.toList with
  | none => .error .missing
  | some encoded =>
    match Action.decode? (String.ofList encoded) with
    | some a => .ok a
    | none => .error .malformed

end Rollmark.Span
