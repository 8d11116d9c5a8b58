/-
The mark for blind rolls: a text with the mark in front is recognized exactly when the text behind it
is, unless that is a modifier, and as the same kind of action. A second mark leaves nothing that any
rule recognizes.
-/
import Rollmark.Proofs.Span.Recovery
import Rollmark.Proofs.Span.Shape
import Rollmark.Proofs.Span.Written

namespace Rollmark.Span

/-! ## The rules -/

/-- Only the rule for modifiers recognizes modifiers. -/
theorem kind_ne_modifier {rule : Rule} (hrule : rule ∈ rules) (hname : rule.name ≠ "modifier")
    {body : Body} {r : Recognized} (h : rule.recognize body = some r) (m : Amount) (d : String) :
    r.kind ≠ .modifier m d := by
  intro hkind
  have hmem := name_mem_ruleNames hrule h
  rw [hkind, ruleNames, List.mem_singleton] at hmem
  exact hname hmem

/-- Only the rule for modifiers asks whether a content is blind. -/
theorem recognize_blind {rule : Rule} (hrule : rule ∈ rules) : rule.recognize = modifier ∨
    rule.name ≠ "modifier" ∧ ∀ chars defaultDesc,
      rule.recognize ⟨chars, true, defaultDesc⟩ = rule.recognize ⟨chars, false, defaultDesc⟩ := by
  simp only [rules, List.mem_cons, List.not_mem_nil, or_false] at hrule
  rcases hrule with rfl | rfl | rfl | rfl | rfl | rfl | rfl | rfl | rfl | rfl | rfl | rfl
  · exact .inl rfl
  all_goals exact .inr ⟨by decide, fun _ _ => rfl⟩

/-- A blind content is recognized like any other one, unless it is a modifier. -/
theorem recognize_blind_iff {rule : Rule} (hrule : rule ∈ rules) {chars : List Char}
    {defaultDesc : String} {r : Recognized} :
    rule.recognize ⟨chars, true, defaultDesc⟩ = some r ↔
      rule.recognize ⟨chars, false, defaultDesc⟩ = some r ∧ ∀ m d, r.kind ≠ .modifier m d := by
  rcases recognize_blind hrule with hmodifier | ⟨hname, hsame⟩
  · rw [hmodifier]
    constructor
    · rintro ⟨⟩
    · rintro ⟨h, hkind⟩
      obtain ⟨m, d, hr⟩ := kind_of_modifier h
      exact absurd hr (hkind m d)
  · rw [hsame]
    exact ⟨fun h => ⟨h, kind_ne_modifier hrule hname h⟩, fun h => h.1⟩

/-! ## What is parsed -/

/-- A text is parsed to the action of a rule that recognizes its content. -/
theorem parse_eq_some_iff {text defaultDesc : String} {colored : Bool} {a : Action} :
    (parse text defaultDesc colored).action = some a ↔
      ∃ body, body? text defaultDesc = some body ∧ ∃ rule ∈ rules, ∃ r,
        rule.recognize body = some r ∧ a = ⟨text, body.blind, r.kind⟩ := by
  constructor
  · intro h
    obtain ⟨body, rule, r, hbody, hfound, ha, -⟩ := parseWith_eq_some h
    obtain ⟨hrule, hr⟩ := of_recognize?_eq_some hfound
    exact ⟨body, hbody, rule, hrule, r, hr, ha⟩
  · rintro ⟨body, hbody, rule, hrule, r, hr, rfl⟩
    exact parse_of_recognize hbody hrule hr colored

/-- A text holds what stands behind the mark, if there is one. -/
theorem chars_of_body? {text defaultDesc : String} {body : Body} (h : body? text defaultDesc = some body) :
    body.chars = Text.skip '!' text.toList := by
  unfold body? at h
  split at h
  · cases h
  · cases h
  · rename_i rest hcs
    cases h
    rw [hcs]
    rfl
  · rename_i hmark
    cases h
    cases hcs : text.toList with
    | nil => rfl
    | cons c cs => exact (if_neg fun hc => hmark cs (by rw [hcs, hc])).symm

/-- What a text with the mark holds is what stands behind the mark. -/
theorem body?_mark {text defaultDesc : String} {body : Body}
    (h : body? ("!" ++ text) defaultDesc = some body) : body = ⟨text.toList, true, defaultDesc⟩ := by
  have htext : ("!" ++ text).toList = '!' :: text.toList := String.toList_append
  unfold body? at h
  rw [htext] at h
  cases htail : text.toList with
  | nil => rw [htail] at h; cases h
  | cons c cs => rw [htail] at h; cases h; rfl

/-- A text without the mark holds all its characters. -/
theorem body?_of_head_ne {text defaultDesc : String} {body : Body} (hmark : text.toList.head? ≠ some '!')
    (h : body? text defaultDesc = some body) : body = ⟨text.toList, false, defaultDesc⟩ := by
  unfold body? at h
  split at h
  · cases h
  · cases h
  · rename_i hcs
    rw [hcs] at hmark
    exact absurd rfl hmark
  · cases h
    rfl

/-- With the mark in front a text is parsed exactly when it is parsed without the mark to something
else than a modifier, and then to a blind action of the same kind. -/
theorem parse_mark_iff {text : String} (hmark : text.toList.head? ≠ some '!') {defaultDesc : String}
    {colored : Bool} {a : Action} :
    (parse ("!" ++ text) defaultDesc colored).action = some a ↔
      ∃ b, (parse text defaultDesc colored).action = some b ∧ (∀ m d, b.kind ≠ .modifier m d) ∧
        a = ⟨"!" ++ text, true, b.kind⟩ := by
  constructor
  · intro h
    obtain ⟨body, hbody, rule, hrule, r, hr, rfl⟩ := parse_eq_some_iff.1 h
    obtain rfl := body?_mark hbody
    obtain ⟨hplain, hkind⟩ := (recognize_blind_iff hrule).1 hr
    have hbody' := body?_of_front (front_of_recognize hrule hplain) defaultDesc
    exact ⟨_, parse_of_recognize hbody' hrule hplain colored, hkind, rfl⟩
  · rintro ⟨b, h, hkind, rfl⟩
    obtain ⟨body, hbody, rule, hrule, r, hr, rfl⟩ := parse_eq_some_iff.1 h
    obtain rfl := body?_of_head_ne hmark hbody
    have hblind := (recognize_blind_iff hrule).2 ⟨hr, hkind⟩
    have hbody' := body?_mark_append (front_of_recognize hrule hblind) defaultDesc
    exact parse_of_recognize hbody' hrule hblind colored

/-- Behind two marks no rule recognizes anything. -/
theorem recognize?_two_marks {text defaultDesc : String} {body : Body}
    (hbody : body? ("!!" ++ text) defaultDesc = some body) : recognize? body rules = none := by
  have htext : "!!" ++ text = "!" ++ ("!" ++ text) := by
    rw [← String.append_assoc]
    rfl
  rw [htext] at hbody
  obtain rfl := body?_mark hbody
  refine List.findSome?_eq_none_iff.2 fun rule hrule => Option.map_eq_none_iff.2 ?_
  by_contra hne
  obtain ⟨r, hr⟩ := Option.ne_none_iff_exists'.1 hne
  have hmark := (front_of_recognize hrule hr).head_ne_mark
  rw [String.toList_append] at hmark
  exact absurd rfl hmark

/-- A text with two marks in front is not recognized. -/
theorem parse_two_marks (text defaultDesc : String) (colored : Bool) :
    matchingRule? ("!!" ++ text) = none ∧ (parse ("!!" ++ text) defaultDesc colored).action = none := by
  constructor
  · unfold matchingRule? matchingRuleWith?
    refine Option.bind_eq_none_iff.2 fun body hbody => ?_
    rw [recognize?_two_marks hbody]
    rfl
  · unfold parse parseWith
    split
    · rfl
    · rename_i body hbody
      rw [recognize?_two_marks hbody]

end Rollmark.Span
