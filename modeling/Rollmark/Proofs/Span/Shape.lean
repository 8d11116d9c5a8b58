/-
Shapes: what a rule can recognize, said once for all rules. Most rules show the whole content and differ
only in the kind of action; modifiers, pages and references by name have shapes of their own.
-/
import Rollmark.Proofs.Span.Letter

namespace Rollmark.Span

/-- The names of the rules that recognize a kind of action. -/
def ruleNames : Action.Kind → List String
  | .modifier .. => ["modifier"]
  | .attributeCheck .. => ["attribute", "targeted-attribute"]
  | .selfControl .. => ["self-control"]
  | .roll .. | .damage .. => ["dice"]
  | .reference _ => ["pdf"]
  | .derivedRoll .. | .derivedDamage .. => ["derived"]
  | .skill .. => ["skill-spell"]
  | .attack .. => ["attack"]
  | .dodge => ["dodge"]
  | .sense .. => ["mapped"]
  | .defense .. => ["block-parry"]

/-- What can be recognized in a content, by the name of the rule. -/
inductive Shape (body : Body) : String → Recognized → Prop
  | modifier (amount : Amount) (desc : String) (positive : Bool) :
      Shape body "modifier" ⟨.modifier amount desc, .modifier positive⟩
  | shown {name : String} {kind : Action.Kind} (h : name ∈ ruleNames kind) :
      Shape body name (shown body kind)
  | page {text : List Char} (h : text <:+ body.chars) :
      Shape body "pdf" ⟨.reference (String.ofList text), .page text⟩
  | named (letter : Letter) {rest : List Char} {r : NamedReference} (hrest : rest <:+ body.chars)
      (hr : namedReference? rest = some r) : Shape body letter.rule.name (letter.recognized r)

theorem modifier_eq_some {body : Body} {r : Recognized} (h : modifier body = some r) :
    ∃ amount desc positive, r = ⟨.modifier amount desc, .modifier positive⟩ := by
  simp only [modifier, Option.bind_eq_bind, Option.bind_none, Option.ite_none_left_eq_some,
    Option.bind_eq_some_iff, Option.some.injEq] at h
  obtain ⟨-, _, -, amount, -, rfl⟩ := h
  exact ⟨amount, _, _, rfl⟩

theorem kind_of_modifier {body : Body} {r : Recognized} (h : modifier body = some r) :
    ∃ m d, r.kind = .modifier m d := by
  obtain ⟨amount, desc, positive, rfl⟩ := modifier_eq_some h
  exact ⟨amount, desc, rfl⟩

/-- Every rule recognizes its own shapes only. -/
theorem shape_of_recognize {rule : Rule} (hrule : rule ∈ rules) {body : Body} {r : Recognized}
    (h : rule.recognize body = some r) : Shape body rule.name r := by
  simp only [rules, List.mem_cons, List.not_mem_nil, or_false] at hrule
  rcases hrule with rfl | rfl | rfl | rfl | rfl | rfl | rfl | rfl | rfl | rfl | rfl | rfl
  · obtain ⟨amount, desc, positive, rfl⟩ := modifier_eq_some h
    exact .modifier amount desc positive
  · simp only [attributeCheck, Option.bind_eq_bind, Option.bind_eq_some_iff, Option.some.injEq] at h
    obtain ⟨_, -, _, -, _, -, rfl⟩ := h
    exact .shown List.mem_cons_self
  · simp only [targetedAttribute, Option.bind_eq_bind, Option.bind_none, Option.bind_eq_some_iff,
      Option.ite_none_left_eq_some, Option.some.injEq] at h
    obtain ⟨_, -, _, -, _, -, _, -, -, rfl⟩ := h
    exact .shown (List.mem_cons_of_mem _ List.mem_cons_self)
  · simp only [selfControl, Option.bind_eq_bind, Option.bind_eq_some_iff, Option.some.injEq] at h
    obtain ⟨_, -, _, -, _, -, _, -, rfl⟩ := h
    exact .shown List.mem_cons_self
  · simp only [dice, Option.bind_eq_bind, Option.bind_eq_some_iff] at h
    obtain ⟨_, -, hkind⟩ := h
    split at hkind <;> cases hkind <;> exact .shown List.mem_cons_self
  · simp only [page, Option.bind_eq_bind, Option.bind_eq_some_iff, Option.some.injEq] at h
    obtain ⟨rest, hrest, rfl⟩ := h
    exact .page ((List.dropWhile_suffix _).trans (Text.suffix_of_dropLead? hrest))
  · simp only [derived, Option.bind_eq_bind, Option.bind_none, Option.bind_eq_some_iff,
      Option.ite_none_left_eq_some] at h
    obtain ⟨_, -, -, _, -, hkind⟩ := h
    split at hkind <;> cases hkind <;> exact .shown List.mem_cons_self
  · simp only [skill, Option.bind_eq_bind, Option.bind_eq_some_iff, Option.some.injEq] at h
    obtain ⟨rest, hrest, r, hr, rfl⟩ := h
    exact .named .skill (Text.suffix_of_dropLead? hrest) hr
  · simp only [attack, Option.bind_eq_bind, Option.bind_eq_some_iff, Option.some.injEq] at h
    obtain ⟨rest, hrest, r, hr, rfl⟩ := h
    exact .named .attack (Text.suffix_of_dropLead? hrest) hr
  · dsimp only [dodge] at h
    split at h <;> cases h <;> exact .shown List.mem_cons_self
  · obtain ⟨_, -, rfl⟩ := Option.map_eq_some_iff.1 h
    exact .shown List.mem_cons_self
  · dsimp only [defense] at h
    split at h
    · obtain ⟨_, -, rfl⟩ := Option.map_eq_some_iff.1 h
      exact .shown List.mem_cons_self
    · cases h

theorem Shape.name_mem {body : Body} {name : String} {r : Recognized} (h : Shape body name r) :
    name ∈ ruleNames r.kind := by
  cases h with
  | modifier | page => exact List.mem_cons_self
  | shown h => exact h
  | named letter => cases letter <;> exact List.mem_cons_self

/-- Every rule recognizes its own kinds of actions only. -/
theorem name_mem_ruleNames {rule : Rule} (hrule : rule ∈ rules) {body : Body} {r : Recognized}
    (h : rule.recognize body = some r) : rule.name ∈ ruleNames r.kind :=
  (shape_of_recognize hrule h).name_mem

end Rollmark.Span
