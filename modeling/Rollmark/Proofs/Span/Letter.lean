/-
Letters: a reference by name begins with a letter and a colon, one for skills and spells and one for
attacks. Behind the letter both are read in the same way, and the letter alone tells which rule recognizes
the reference.
-/
import Rollmark.Proofs.Span.Order

namespace Rollmark.Span

/-- The letters of references by name. -/
inductive Letter where
  | skill
  | attack

namespace Letter

/-- What stands before a name. -/
def text : Letter → String
  | .skill => "S:"
  | .attack => "A:"

/-- The rule for a letter. -/
def rule : Letter → Rule
  | .skill => ⟨"skill-spell", Span.skill⟩
  | .attack => ⟨"attack", Span.attack⟩

/-- The kind of action that a letter stands for. -/
def kind : Letter → String → Option Amount → String → Action.Kind
  | .skill => .skill
  | .attack => .attack

/-- What is shown before a name. -/
def label : Letter → String
  | .skill => "<b>S:</b>"
  | .attack => "<b>A:</b>"

/-- What is recognized in a reference. -/
def recognized (letter : Letter) (r : NamedReference) : Recognized :=
  ⟨letter.kind (String.ofList r.name) r.amount (String.ofList r.desc), .link r.spanText letter.label r.comment⟩

theorem rule_mem (letter : Letter) : letter.rule ∈ rules := by
  cases letter <;> simp [rule, rules]

theorem front (letter : Letter) (rest : List Char) : Front letter.rule.name (letter.text.toList ++ rest) := by
  cases letter
  · exact .skill rest
  · exact .attack rest

theorem recognize_eq (letter : Letter) (rest : List Char) (blind : Bool) (defaultDesc : String) :
    letter.rule.recognize ⟨letter.text.toList ++ rest, blind, defaultDesc⟩ =
      (namedReference? rest).map letter.recognized := by
  cases letter with
  | skill =>
    show Span.skill ⟨"S:".toList ++ rest, blind, defaultDesc⟩ = _
    simp only [Span.skill, Option.bind_eq_bind, Text.dropLead?_append, Option.bind_some]
    cases namedReference? rest <;> rfl
  | attack =>
    show Span.attack ⟨"A:".toList ++ rest, blind, defaultDesc⟩ = _
    simp only [Span.attack, Option.bind_eq_bind, Text.dropLead?_append, Option.bind_some]
    cases namedReference? rest <;> rfl

/-- A text that begins with a letter is parsed as the reference behind it. -/
theorem parse_eq (letter : Letter) (rest defaultDesc : String) (colored : Bool) :
    parse (letter.text ++ rest) defaultDesc colored =
      match namedReference? rest.toList with
      | none => ⟨letter.text ++ rest, none⟩
      | some r =>
        let a : Action := ⟨letter.text ++ rest, false, (letter.recognized r).kind⟩
        ⟨render a (letter.recognized r).look colored, some a⟩ := by
  have hchars : (letter.text ++ rest).toList = letter.text.toList ++ rest.toList := String.toList_append
  have hfront := letter.front rest.toList
  have hbody := body?_of_front (hchars ▸ hfront) defaultDesc
  have hfound := @recognize?_of_owner _ letter.rule_mem
    ⟨letter.text.toList ++ rest.toList, false, defaultDesc⟩ hfront.owner_eq
  rw [hchars] at hbody
  rw [letter.recognize_eq] at hfound
  simp only [parse, parseWith, hbody, hfound]
  cases namedReference? rest.toList <;> rfl

end Letter

end Rollmark.Span
