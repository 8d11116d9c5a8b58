/-
Well-formed actions: what holds of every action that a text is parsed to, whatever the text. There is
such an action exactly when some rule recognizes the text. It keeps the text, it is blind exactly when
the text begins with the mark for blind rolls, and its parts fit together as the character that it is
dispatched for relies on: paths belong to their names, names are never empty, targets are never
negative, and a word behind dice is taken for a damage type exactly when it is one.

Each rule takes care of its own kind of action, so there is one lemma for each rule.
-/
import Rollmark.Proofs.Span.Blind

namespace Rollmark

/-- Without blanks at the ends. -/
def IsTrimmed (s : String) : Prop := Text.trimmed s = s

theorem isTrimmed_ofList_trim (cs : List Char) : IsTrimmed (String.ofList (Text.trim cs)) := by
  rw [IsTrimmed, Text.trimmed, String.toList_ofList, Text.trim_trim]

namespace Action

/-- What holds of the parts of a kind of action. -/
def Kind.WellFormed (defaultDesc : String) : Kind → Prop
  | .modifier _ desc => desc ≠ "" ∧ IsTrimmed desc ∨ desc = defaultDesc
  | .attributeCheck name path amount desc target =>
    attributePath? name = some path ∧ IsTrimmed desc ∧ ∀ t, target = some t → 1 ≤ t.val ∧ amount = none
  | .selfControl target _ => 0 ≤ target.val
  | .skill name amount desc | .attack name amount desc =>
    name ≠ "" ∧ IsTrimmed name ∧ (amount = none → desc = "")
  | .roll _ desc | .derivedRoll _ _ desc => isDamageType desc = false
  | .damage _ damageType | .derivedDamage _ _ damageType => isDamageType damageType = true
  | .dodge => True
  | .sense path desc => sense? desc = some path
  | .defense desc weapon path =>
    (path = "block" ∨ path = "parry") ∧ path = String.ofList (desc.toList.map Char.toLower) ∧
      ∀ w, weapon = some w → w ≠ "" ∧ ':' ∉ w.toList
  | .reference link => link.toList.head? ≠ some ' '

/-- What holds of an action that was parsed from a text. -/
structure WellFormed (text defaultDesc : String) (a : Action) : Prop where
  orig : a.orig = text
  blind : a.blind = true ↔ text.toList.head? = some '!'
  /-- Modifiers are never blind. -/
  modifier : ∀ amount desc, a.kind = .modifier amount desc → a.blind = false
  kind : a.kind.WellFormed defaultDesc

end Action

namespace Span

/-! ## What the rules recognize -/

section Rules

variable {body : Body} {r : Recognized}

theorem isTrimmed_of_lineDesc? {cs : List Char} {d : String} (h : lineDesc? cs = some d) :
    IsTrimmed d := by
  rw [lineDesc?, Option.ite_none_right_eq_some] at h
  obtain ⟨-, ⟨⟩⟩ := h
  exact isTrimmed_ofList_trim cs

/-- A number that is read from a run of digits is not negative. -/
theorem nonneg_of_digitRun? {cs run rest : List Char} {a : Amount}
    (hrun : Text.digitRun? cs = some (run, rest)) (h : Amount.read? run = some a) : 0 ≤ a.val := by
  obtain ⟨-, -, hdigits, -⟩ := Text.digitRun?_eq_some.1 hrun
  refine Amount.nonneg_of_read? (fun hminus => ?_) h
  exact absurd (hdigits '-' (List.mem_of_mem_head? hminus)) (by decide)

theorem wellFormed_modifier (h : modifier body = some r) : r.kind.WellFormed body.defaultDesc := by
  simp only [modifier, Option.bind_eq_bind, Option.bind_none, Option.ite_none_left_eq_some,
    Option.bind_eq_some_iff, Option.some.injEq, Prod.exists] at h
  obtain ⟨-, run, rest, -, amount, -, rfl⟩ := h
  by_cases hempty : (Text.trim rest).isEmpty = true
  · exact .inr (if_pos hempty)
  · refine .inl ?_
    rw [if_neg hempty]
    exact ⟨fun hdesc => hempty (List.isEmpty_iff.2 (String.ofList_eq_empty_iff.1 hdesc)),
      isTrimmed_ofList_trim rest⟩

theorem wellFormed_attributeCheck (h : attributeCheck body = some r) :
    r.kind.WellFormed body.defaultDesc := by
  simp only [attributeCheck, Option.bind_eq_bind, Option.bind_eq_some_iff, Option.some.injEq,
    Prod.exists] at h
  obtain ⟨path, hpath, amount, rest, -, desc, hdesc, rfl⟩ := h
  exact ⟨hpath, isTrimmed_of_lineDesc? hdesc, by rintro t ⟨⟩⟩

theorem wellFormed_targetedAttribute (h : targetedAttribute body = some r) :
    r.kind.WellFormed body.defaultDesc := by
  simp only [targetedAttribute, Option.bind_eq_bind, Option.bind_none, Option.bind_eq_some_iff,
    Option.ite_none_left_eq_some, Option.some.injEq, Prod.exists] at h
  obtain ⟨path, hpath, run, rest, hrun, desc, hdesc, target, htarget, hzero, rfl⟩ := h
  refine ⟨hpath, isTrimmed_of_lineDesc? hdesc, ?_⟩
  rintro t ⟨⟩
  have hnonneg := nonneg_of_digitRun? hrun htarget
  have hne : target.val ≠ 0 := fun hval => hzero (Amount.eq_of_val_eq hval)
  exact ⟨by omega, rfl⟩

theorem wellFormed_selfControl (h : selfControl body = some r) :
    r.kind.WellFormed body.defaultDesc := by
  simp only [selfControl, Option.bind_eq_bind, Option.bind_eq_some_iff, Option.some.injEq,
    Prod.exists] at h
  obtain ⟨behind, -, run, rest, hrun, desc, -, target, htarget, rfl⟩ := h
  exact nonneg_of_digitRun? hrun htarget

theorem wellFormed_dice (h : dice body = some r) : r.kind.WellFormed body.defaultDesc := by
  simp only [dice, Option.bind_eq_bind, Option.bind_eq_some_iff] at h
  obtain ⟨typed, -, hkind⟩ := h
  split at hkind
  · rename_i htype
    cases hkind
    exact htype
  · rename_i htype
    cases hkind
    exact Bool.eq_false_iff.2 htype

theorem wellFormed_page (h : page body = some r) : r.kind.WellFormed body.defaultDesc := by
  simp only [page, Option.bind_eq_bind, Option.bind_eq_some_iff, Option.some.injEq] at h
  obtain ⟨rest, -, rfl⟩ := h
  intro hblank
  rw [String.toList_ofList] at hblank
  exact absurd (Text.head?_dropWhile rest ' ' hblank) (by decide)

theorem wellFormed_derived (h : derived body = some r) : r.kind.WellFormed body.defaultDesc := by
  simp only [derived, Option.bind_eq_bind, Option.bind_none, Option.bind_eq_some_iff,
    Option.ite_none_left_eq_some] at h
  obtain ⟨_, -, -, trailing, -, hkind⟩ := h
  split at hkind
  · rename_i htype
    cases hkind
    exact htype
  · rename_i htype
    cases hkind
    exact Bool.eq_false_iff.2 htype

/-- A name is never empty, and only behind a number there is a description. -/
theorem wellFormed_namedReference? {cs : List Char} {ref : NamedReference}
    (h : namedReference? cs = some ref) : String.ofList ref.name ≠ "" ∧
      IsTrimmed (String.ofList ref.name) ∧ (ref.amount = none → String.ofList ref.desc = "") := by
  simp only [namedReference?, Option.bind_eq_bind, Option.bind_none, Option.bind_eq_some_iff,
    Option.ite_none_left_eq_some, Prod.exists] at h
  obtain ⟨name, rest, -, hne, href⟩ := h
  have hname : String.ofList (Text.trim name) ≠ "" := fun hempty =>
    hne (List.isEmpty_iff.2 (String.ofList_eq_empty_iff.1 hempty))
  split at href
  · obtain ⟨amount, -, href⟩ := Option.bind_eq_some_iff.1 href
    cases href
    exact ⟨hname, isTrimmed_ofList_trim name, by rintro ⟨⟩⟩
  · cases href
    exact ⟨hname, isTrimmed_ofList_trim name, fun _ => rfl⟩

theorem wellFormed_skill (h : skill body = some r) : r.kind.WellFormed body.defaultDesc := by
  simp only [skill, Option.bind_eq_bind, Option.bind_eq_some_iff, Option.some.injEq] at h
  obtain ⟨rest, -, ref, href, rfl⟩ := h
  exact wellFormed_namedReference? href

theorem wellFormed_attack (h : attack body = some r) : r.kind.WellFormed body.defaultDesc := by
  simp only [attack, Option.bind_eq_bind, Option.bind_eq_some_iff, Option.some.injEq] at h
  obtain ⟨rest, -, ref, href, rfl⟩ := h
  exact wellFormed_namedReference? href

theorem wellFormed_dodge (h : dodge body = some r) : r.kind.WellFormed body.defaultDesc := by
  unfold dodge at h
  split at h <;> cases h <;> trivial

theorem wellFormed_sense (h : sense body = some r) : r.kind.WellFormed body.defaultDesc := by
  obtain ⟨path, hpath, rfl⟩ := Option.map_eq_some_iff.1 h
  exact hpath

/-- The word of a defense in lower case is its path. -/
theorem defensePath?_toLower {word path : String} (h : defensePath? word = some path) :
    (path = "block" ∨ path = "parry") ∧ path = String.ofList (word.toList.map Char.toLower) := by
  unfold defensePath? at h
  split at h <;> cases h <;> decide

theorem wellFormed_defense (h : defense body = some r) : r.kind.WellFormed body.defaultDesc := by
  obtain ⟨word, more, hsplit⟩ := List.exists_cons_of_ne_nil (Text.split_ne_nil ':' body.chars)
  unfold defense at h
  rw [hsplit] at h
  obtain ⟨path, hpath, rfl⟩ := Option.map_eq_some_iff.1 h
  obtain ⟨hpaths, hlower⟩ := defensePath?_toLower hpath
  refine ⟨hpaths, hlower, fun w hw => ?_⟩
  obtain ⟨hfirst, hne⟩ := Option.filter_eq_some_iff.1 hw
  obtain ⟨part, hpart, rfl⟩ := List.mem_map.1 (List.mem_of_mem_head? hfirst)
  have hcolon : ':' ∉ part := Text.notMem_of_mem_split (hsplit ▸ List.mem_cons_of_mem word hpart)
  refine ⟨by simpa using hne, ?_⟩
  rwa [String.toList_ofList]

/-- What a rule recognizes is well formed. -/
theorem wellFormed_of_recognize {rule : Rule} (hrule : rule ∈ rules) (h : rule.recognize body = some r) :
    r.kind.WellFormed body.defaultDesc := by
  simp only [rules, List.mem_cons, List.not_mem_nil, or_false] at hrule
  rcases hrule with rfl | rfl | rfl | rfl | rfl | rfl | rfl | rfl | rfl | rfl | rfl | rfl
  · exact wellFormed_modifier h
  · exact wellFormed_attributeCheck h
  · exact wellFormed_targetedAttribute h
  · exact wellFormed_selfControl h
  · exact wellFormed_dice h
  · exact wellFormed_page h
  · exact wellFormed_derived h
  · exact wellFormed_skill h
  · exact wellFormed_attack h
  · exact wellFormed_dodge h
  · exact wellFormed_sense h
  · exact wellFormed_defense h

end Rules

/-! ## Which texts are recognized -/

/-- The default description decides how a content is described, never whether it is recognized. -/
theorem recognize_defaultDesc {rule : Rule} (hrule : rule ∈ rules) {chars : List Char} {blind : Bool}
    {d : String} {r : Recognized} (h : rule.recognize ⟨chars, blind, d⟩ = some r) (d' : String) :
    ∃ r', rule.recognize ⟨chars, blind, d'⟩ = some r' := by
  simp only [rules, List.mem_cons, List.not_mem_nil, or_false] at hrule
  rcases hrule with rfl | rfl | rfl | rfl | rfl | rfl | rfl | rfl | rfl | rfl | rfl | rfl
  · simp only [modifier, Option.bind_eq_bind, Option.bind_none, Option.ite_none_left_eq_some,
      Option.bind_eq_some_iff, Prod.exists] at h
    obtain ⟨hblind, run, rest, hrun, amount, hamount, -⟩ := h
    simp only [modifier, if_neg hblind, Option.bind_eq_bind, hrun, Option.bind_some, hamount]
    exact ⟨_, rfl⟩
  -- no other rule looks at it
  all_goals exact ⟨r, h⟩

section Body

variable {text d : String} {body : Body}

theorem body?_spec (h : body? text d = some body) :
    body.defaultDesc = d ∧ (body.blind = true ↔ text.toList.head? = some '!') := by
  unfold body? at h
  split at h
  · cases h
  · cases h
  · rename_i hcs
    cases h
    rw [hcs]
    exact ⟨rfl, iff_of_true rfl rfl⟩
  · rename_i hmark
    cases h
    refine ⟨rfl, iff_of_false Bool.false_ne_true fun hhead => ?_⟩
    obtain ⟨rest, hrest⟩ := List.head?_eq_some_iff.1 hhead
    exact hmark rest hrest

theorem body?_defaultDesc (h : body? text d = some body) (d' : String) :
    body? text d' = some ⟨body.chars, body.blind, d'⟩ := by
  unfold body? at h ⊢
  split at h <;> cases h <;> rfl

end Body

/-- The name that is found for a text is the name of a rule that recognizes its content. -/
theorem matchingRule?_eq_some_iff {text name : String} : matchingRule? text = some name ↔
    ∃ body, body? text "" = some body ∧ ∃ rule ∈ rules, rule.name = name ∧
      ∃ r, rule.recognize body = some r := by
  unfold matchingRule? matchingRuleWith?
  rw [Option.bind_eq_some_iff]
  constructor
  · rintro ⟨body, hbody, hname⟩
    obtain ⟨⟨rule, r⟩, hfound, rfl⟩ := Option.map_eq_some_iff.1 hname
    obtain ⟨hrule, hr⟩ := of_recognize?_eq_some hfound
    exact ⟨body, hbody, rule, hrule, rfl, r, hr⟩
  · rintro ⟨body, hbody, rule, hrule, rfl, r, hr⟩
    refine ⟨body, hbody, ?_⟩
    rw [recognize?_of_mem hrule hr]
    rfl

/-- Whatever the default description, a text is parsed to an action exactly when some rule matches
it. -/
theorem exists_action_iff (text defaultDesc : String) (colored : Bool) :
    (∃ a, (parse text defaultDesc colored).action = some a) ↔
      ∃ rule ∈ rules, matchingRule? text = some rule.name := by
  constructor
  · rintro ⟨a, ha⟩
    obtain ⟨body, hbody, rule, hrule, r, hr, -⟩ := parse_eq_some_iff.1 ha
    obtain ⟨r', hr'⟩ := recognize_defaultDesc hrule hr ""
    exact ⟨rule, hrule,
      matchingRule?_eq_some_iff.2 ⟨_, body?_defaultDesc hbody "", rule, hrule, rfl, r', hr'⟩⟩
  · rintro ⟨_, -, hmatch⟩
    obtain ⟨body, hbody, rule, hrule, -, r, hr⟩ := matchingRule?_eq_some_iff.1 hmatch
    obtain ⟨r', hr'⟩ := recognize_defaultDesc hrule hr defaultDesc
    exact ⟨_, parse_of_recognize (body?_defaultDesc hbody defaultDesc) hrule hr' colored⟩

theorem text_of_action_eq_none {text defaultDesc : String} {colored : Bool}
    (h : (parse text defaultDesc colored).action = none) : (parse text defaultDesc colored).text = text := by
  unfold parse parseWith at h ⊢
  split at h
  · rfl
  · split at h
    · rfl
    · cases h

/-! ## What is parsed -/

/-- A text is parsed to an action exactly when some rule matches it, and else it stays as it is. Every
action that a text is parsed to is well formed. -/
theorem parse_wellFormed (text defaultDesc : String) (colored : Bool) :
    ((∃ a, (parse text defaultDesc colored).action = some a) ↔
      ∃ rule ∈ rules, matchingRule? text = some rule.name) ∧
    ((parse text defaultDesc colored).action = none → (parse text defaultDesc colored).text = text) ∧
    ∀ a, (parse text defaultDesc colored).action = some a → a.WellFormed text defaultDesc := by
  refine ⟨exists_action_iff text defaultDesc colored, text_of_action_eq_none, fun a ha => ?_⟩
  obtain ⟨body, hbody, rule, hrule, r, hr, rfl⟩ := parse_eq_some_iff.1 ha
  obtain ⟨hdefault, hblind⟩ := body?_spec hbody
  refine ⟨rfl, hblind, fun amount desc hkind => ?_, ?_⟩
  · -- a blind content would not have been recognized as a modifier
    refine Bool.eq_false_iff.2 fun hmark => ?_
    obtain ⟨chars, blind, d⟩ := body
    obtain rfl : blind = true := hmark
    exact ((recognize_blind_iff hrule).1 hr).2 amount desc hkind
  · rw [← hdefault]
    exact wellFormed_of_recognize hrule hr

/-- A blind parry with two colons: what stands behind the second one is dropped. -/
theorem parse_wellFormed_parry :
    let a : Action := ⟨"!PARRY:Main:Gauche", true, .defense "PARRY" (some "Main") "parry"⟩
    (parse "!PARRY:Main:Gauche" "aim" true).action = some a ∧
      matchingRule? "!PARRY:Main:Gauche" = some "block-parry" ∧ a.WellFormed "!PARRY:Main:Gauche" "aim" :=
  ⟨by decide, by decide, (parse_wellFormed "!PARRY:Main:Gauche" "aim" true).2.2 _ (by decide)⟩

end Span

end Rollmark
