/-
The front of a span: with what a content begins that a given rule recognizes. The letters in front,
together with the character behind them, already tell which rule that can be, so a content with a
front for one rule has none for another.
-/
import Rollmark.Proofs.Text.Numeral
import Rollmark.Proofs.Text.Scan
import Rollmark.Span.Rule

namespace Rollmark.Span

/-! ## The words of the rules -/

theorem attributePath?_letters {name path : String} (h : attributePath? name = some path) :
    2 ≤ name.toList.length ∧ ∀ c ∈ name.toList, c.isAlpha = true := by
  unfold attributePath? at h
  split at h <;> cases h <;> exact ⟨by decide, List.all_eq_true.1 (by decide)⟩

theorem defensePath?_letters {word path : String} (h : defensePath? word = some path) :
    2 ≤ word.toList.length ∧ ∀ c ∈ word.toList, c.isAlpha = true := by
  unfold defensePath? at h
  split at h <;> cases h <;> exact ⟨by decide, List.all_eq_true.1 (by decide)⟩

theorem not_wordChar {c : Char} (h : isWordChar c = false) : c.isAlpha = false ∧ c.isDigit = false := by
  simp only [isWordChar, Char.isAlphanum, Bool.or_eq_false_iff] at h
  exact h.1

/-! ## Fronts -/

/-- With what a content begins, by the name of the rule that recognizes it. -/
inductive Front : String → List Char → Prop
  | modifier {sign digit : Char} {rest : List Char} (hsign : Text.isSign sign = true)
      (hdigit : Text.isDecimalDigit digit = true) : Front "modifier" (sign :: digit :: rest)
  | attributeCheck {name path : String} {rest : List Char} (hname : attributePath? name = some path)
      (hrest : ∀ c ∈ rest.head?, isWordChar c = false) : Front "attribute" (name.toList ++ rest)
  | targetedAttribute {name path : String} {digit : Char} {rest : List Char}
      (hname : attributePath? name = some path) (hdigit : digit.isDigit = true) :
      Front "targeted-attribute" (name.toList ++ digit :: rest)
  | selfControl (rest : List Char) : Front "self-control" ("CR:".toList ++ rest)
  | dice {digit next : Char} {rest : List Char} (hdigit : Text.isDecimalDigit digit = true) :
      Front "dice" (digit :: next :: rest)
  | page (rest : List Char) : Front "pdf" ("PDF:".toList ++ rest)
  | derived (base : DerivedBase) {rest : List Char} (hrest : ∀ c ∈ rest.head?, c.isAlpha = false) :
      Front "derived" (base.text.toList ++ rest)
  | skill (rest : List Char) : Front "skill-spell" ("S:".toList ++ rest)
  | attack (rest : List Char) : Front "attack" ("A:".toList ++ rest)
  | dodge {word : String} (hword : word = "Dodge" ∨ word = "DODGE") : Front "dodge" word.toList
  | sense {word path : String} (hword : sense? word = some path) : Front "mapped" word.toList
  | defense {word path : String} {rest : List Char} (hword : defensePath? word = some path)
      (hrest : ∀ c ∈ rest.head?, c = ':') : Front "block-parry" (word.toList ++ rest)

/-- The only rule that a content with these letters in front and this character behind them can
have a front for. -/
def ownerOf (word : String) (next : Option Char) : Option String :=
  match word with
  | "" =>
    if next.any Text.isSign then some "modifier"
    else if next.any Text.isDecimalDigit then some "dice"
    else none
  | "CR" => some "self-control"
  | "PDF" => some "pdf"
  | "SW" | "THR" => some "derived"
  | "S" => some "skill-spell"
  | "A" => some "attack"
  | "Dodge" | "DODGE" => some "dodge"
  | "Block" | "BLOCK" | "Parry" | "PARRY" => some "block-parry"
  | "ST" | "DX" | "IQ" | "HT" | "WILL" | "Will" | "PER" | "Per" =>
    some (if next.any Char.isDigit then "targeted-attribute" else "attribute")
  | _ => some "mapped"

/-- The only rule that a content can have a front for. -/
def owner (cs : List Char) : Option String :=
  ownerOf (String.ofList (cs.takeWhile Char.isAlpha)) (cs.dropWhile Char.isAlpha).head?

/-- A word of letters with something else behind it. -/
theorem owner_append {word : String} {rest : List Char} (hword : ∀ c ∈ word.toList, c.isAlpha = true)
    (hrest : ∀ c ∈ rest.head?, c.isAlpha = false) :
    owner (word.toList ++ rest) = ownerOf word rest.head? := by
  unfold owner
  rw [Text.takeWhile_run hword hrest, Text.dropWhile_run hword hrest, String.ofList_toList]

theorem owner_cons {c : Char} {rest : List Char} (h : c.isAlpha = false) :
    owner (c :: rest) = ownerOf "" (some c) := by
  exact @owner_append "" (c :: rest) nofun (by rintro d ⟨⟩; exact h)

theorem ownerOf_empty (next : Option Char) : ownerOf "" next =
    if next.any Text.isSign then some "modifier"
    else if next.any Text.isDecimalDigit then some "dice"
    else none := rfl

theorem ownerOf_attribute {name path : String} (h : attributePath? name = some path)
    (next : Option Char) : ownerOf name next =
      some (if next.any Char.isDigit then "targeted-attribute" else "attribute") := by
  unfold attributePath? at h
  split at h <;> cases h <;> rfl

theorem ownerOf_defense {word path : String} (h : defensePath? word = some path)
    (next : Option Char) : ownerOf word next = some "block-parry" := by
  unfold defensePath? at h
  split at h <;> cases h <;> rfl

theorem owner_sense {word path : String} (h : sense? word = some path) :
    owner word.toList = some "mapped" := by
  unfold sense? at h
  split at h <;> cases h <;> rfl

namespace Front

/-- A content has a front for its owner only. -/
theorem owner_eq {name : String} {cs : List Char} (h : Front name cs) : owner cs = some name := by
  cases h with
  | modifier hsign hdigit =>
    rw [owner_cons (Text.isAlpha_of_isSign hsign), ownerOf_empty, Option.any_some, if_pos hsign]
  | attributeCheck hname hrest =>
    rw [owner_append (attributePath?_letters hname).2 fun c hc => (not_wordChar (hrest c hc)).1,
      ownerOf_attribute hname, if_neg]
    intro hany
    obtain ⟨c, hc, hdigit⟩ := (Option.any_eq_true _ _).1 hany
    rw [(not_wordChar (hrest c hc)).2] at hdigit
    cases hdigit
  | targetedAttribute hname hdigit =>
    have halpha := Text.isAlpha_of_isDecimalDigit (Text.isDecimalDigit_of_isDigit hdigit)
    rw [owner_append (attributePath?_letters hname).2 (by rintro c ⟨⟩; exact halpha),
      ownerOf_attribute hname, List.head?_cons, Option.any_some, if_pos hdigit]
  | selfControl rest => rfl
  | dice hdigit =>
    rw [owner_cons (Text.isAlpha_of_isDecimalDigit hdigit), ownerOf_empty, Option.any_some,
      Option.any_some, if_neg (Bool.eq_false_iff.1 (Text.isSign_of_isDecimalDigit hdigit)), if_pos hdigit]
  | page rest => rfl
  | derived base hrest =>
    cases base <;> exact owner_append (List.all_eq_true.1 (by decide)) hrest
  | skill rest => rfl
  | attack rest => rfl
  | dodge hword => rcases hword with rfl | rfl <;> rfl
  | sense hword => exact owner_sense hword
  | defense hword hrest =>
    rw [owner_append (defensePath?_letters hword).2 (fun c hc => hrest c hc ▸ rfl),
      ownerOf_defense hword]

/-- A content with a front has at least two characters. -/
theorem two_le_length {name : String} {cs : List Char} (h : Front name cs) : 2 ≤ cs.length := by
  cases h with
  | attributeCheck hname | targetedAttribute hname =>
    have := (attributePath?_letters hname).1
    rw [List.length_append]; omega
  | defense hword =>
    have := (defensePath?_letters hword).1
    rw [List.length_append]; omega
  | derived base =>
    have : 2 ≤ base.text.toList.length := by cases base <;> decide
    rw [List.length_append]; omega
  | dodge hword => rcases hword with rfl | rfl <;> decide
  | sense hword =>
    unfold sense? at hword
    split at hword <;> cases hword <;> decide
  | _ => simp

/-- A content that begins with the mark for blind rolls has no front. -/
theorem head_ne_mark {name : String} {cs : List Char} (h : Front name cs) : cs.head? ≠ some '!' := by
  intro hmark
  obtain ⟨rest, rfl⟩ := List.head?_eq_some_iff.1 hmark
  have howner := h.owner_eq
  rw [owner_cons (by decide)] at howner
  cases howner

end Front

/-! ## What the rules recognize -/

theorem front_modifier {body : Body} {r : Recognized} (h : modifier body = some r) :
    Front "modifier" body.chars := by
  simp only [modifier, Option.bind_eq_bind, Option.bind_none, Option.ite_none_left_eq_some,
    Option.bind_eq_some_iff, Prod.exists] at h
  obtain ⟨-, run, rest, hrun, -⟩ := h
  obtain ⟨sign, digits, hsign, -, hchars, hne, hdigits, -⟩ := Text.signedRun?_eq_some.1 hrun
  obtain ⟨digit, more, rfl⟩ := List.exists_cons_of_ne_nil hne
  rw [hchars]
  exact .modifier hsign (hdigits digit List.mem_cons_self)

theorem front_attributeCheck {body : Body} {r : Recognized} (h : attributeCheck body = some r) :
    Front "attribute" body.chars := by
  simp only [attributeCheck, Option.bind_eq_bind, Option.bind_eq_some_iff] at h
  obtain ⟨path, hname, -⟩ := h
  have hfront := Front.attributeCheck hname (Text.head?_dropWhile body.chars)
  rwa [String.toList_ofList, List.takeWhile_append_dropWhile] at hfront

/-- A row of decimal digits that is read begins with one of the digits `0` to `9`. -/
theorem isDigit_of_read? {digit : Char} {more : List Char} {a : Amount}
    (hdigit : Text.isDecimalDigit digit = true) (h : Amount.read? (digit :: more) = some a) :
    digit.isDigit = true := by
  have hsign : ∀ c ∈ (digit :: more).head?, c ≠ '-' ∧ c ≠ '+' := by
    rintro c ⟨⟩
    constructor <;> rintro rfl <;> exact absurd hdigit (by decide)
  rw [Amount.read?, Text.integer?_eq_natural? hsign] at h
  obtain ⟨n, hn, -⟩ := Option.bind_eq_some_iff.1 h
  obtain ⟨m, hm, -⟩ := Option.map_eq_some_iff.1 hn
  exact (Text.natural?_eq_some.1 hm).2.1 digit List.mem_cons_self

theorem front_targetedAttribute {body : Body} {r : Recognized} (h : targetedAttribute body = some r) :
    Front "targeted-attribute" body.chars := by
  simp only [targetedAttribute, Option.bind_eq_bind, Option.bind_eq_some_iff, Prod.exists] at h
  obtain ⟨path, hname, run, rest, hrun, desc, -, target, htarget, -⟩ := h
  obtain ⟨hchars, hne, hdigits, -⟩ := Text.digitRun?_eq_some.1 hrun
  obtain ⟨digit, more, rfl⟩ := List.exists_cons_of_ne_nil hne
  have hdigit := isDigit_of_read? (hdigits digit List.mem_cons_self) htarget
  have hfront := @Front.targetedAttribute _ _ _ (more ++ rest) hname hdigit
  rwa [String.toList_ofList, ← List.cons_append, ← hchars, List.takeWhile_append_dropWhile] at hfront

theorem front_selfControl {body : Body} {r : Recognized} (h : selfControl body = some r) :
    Front "self-control" body.chars := by
  simp only [selfControl, Option.bind_eq_bind, Option.bind_eq_some_iff] at h
  obtain ⟨rest, hlead, -⟩ := h
  rw [Text.dropLead?_eq_some.1 hlead]
  exact .selfControl rest

theorem front_dice {body : Body} {r : Recognized} (h : dice body = some r) :
    Front "dice" body.chars := by
  simp only [dice, typedDice?, Option.bind_eq_bind, Option.bind_none, Option.ite_none_left_eq_some,
    Option.bind_eq_some_iff, Prod.exists] at h
  obtain ⟨typed, ⟨count, rest, hcount, after, hmarker, -⟩, -⟩ := h
  obtain ⟨hchars, hne, hdigits, -⟩ := Text.digitRun?_eq_some.1 hcount
  obtain ⟨digit, more, rfl⟩ := List.exists_cons_of_ne_nil hne
  have hdigit := hdigits digit List.mem_cons_self
  rw [hchars, Text.dropLead?_eq_some.1 hmarker]
  cases more with
  | nil => exact .dice hdigit
  | cons next more => exact .dice hdigit

theorem front_page {body : Body} {r : Recognized} (h : page body = some r) :
    Front "pdf" body.chars := by
  simp only [page, Option.bind_eq_bind, Option.bind_eq_some_iff] at h
  obtain ⟨rest, hlead, -⟩ := h
  rw [Text.dropLead?_eq_some.1 hlead]
  exact .page rest

theorem derivedBase?_eq_some {cs rest : List Char} {base : DerivedBase} :
    derivedBase? cs = some (base, rest) ↔ cs = base.text.toList ++ rest := by
  unfold derivedBase?
  constructor
  · intro h
    split at h
    · rename_i hlead
      cases h
      exact Text.dropLead?_eq_some.1 hlead
    · obtain ⟨rest', hlead, heq⟩ := Option.map_eq_some_iff.1 h
      cases heq
      exact Text.dropLead?_eq_some.1 hlead
  · rintro rfl
    cases base <;> rfl

theorem optionalRun_eq_self {cs : List Char} (h : ∀ c ∈ cs.head?, Text.isSign c = false) :
    optionalRun cs = ([], cs) := by
  rw [optionalRun, Text.signedRun?_eq_none h, Option.getD_none]

theorem optionalMark_eq_self {cs : List Char} (h : cs.head? ≠ some '!') : optionalMark cs = ([], cs) := by
  unfold optionalMark
  split
  · exact absurd rfl h
  · rfl

theorem front_derived {body : Body} {r : Recognized} (h : derived body = some r) :
    Front "derived" body.chars := by
  simp only [derived, Option.bind_eq_bind, Option.bind_none, Option.ite_none_left_eq_some,
    Option.bind_eq_some_iff, Prod.exists] at h
  obtain ⟨base, rest, hbase, hend, -⟩ := h
  rw [derivedBase?_eq_some.1 hbase]
  refine .derived base fun c hc => ?_
  -- a letter would be neither a number nor the mark nor the blank before a description
  by_contra hletter
  rw [Bool.not_eq_false] at hletter
  obtain ⟨more, rfl⟩ := List.head?_eq_some_iff.1 hc
  have hsign : ∀ d ∈ (c :: more).head?, Text.isSign d = false := by
    rintro d ⟨⟩
    by_contra hsign
    rw [Text.isAlpha_of_isSign (Bool.not_eq_false _ ▸ hsign)] at hletter
    cases hletter
  have hmark : (c :: more).head? ≠ some '!' := by
    rintro ⟨⟩
    cases hletter
  rw [optionalRun_eq_self hsign, optionalMark_eq_self hmark] at hend
  have hblank : c = ' ' := by simpa using hend
  rw [hblank] at hletter
  cases hletter

theorem front_skill {body : Body} {r : Recognized} (h : skill body = some r) :
    Front "skill-spell" body.chars := by
  simp only [skill, Option.bind_eq_bind, Option.bind_eq_some_iff] at h
  obtain ⟨rest, hlead, -⟩ := h
  rw [Text.dropLead?_eq_some.1 hlead]
  exact .skill rest

theorem front_attack {body : Body} {r : Recognized} (h : attack body = some r) :
    Front "attack" body.chars := by
  simp only [attack, Option.bind_eq_bind, Option.bind_eq_some_iff] at h
  obtain ⟨rest, hlead, -⟩ := h
  rw [Text.dropLead?_eq_some.1 hlead]
  exact .attack rest

theorem front_dodge {body : Body} {r : Recognized} (h : dodge body = some r) :
    Front "dodge" body.chars := by
  have hfront := @Front.dodge (String.ofList body.chars)
  rw [String.toList_ofList] at hfront
  unfold dodge at h
  split at h
  · exact hfront (.inl ‹_›)
  · exact hfront (.inr ‹_›)
  · cases h

theorem front_sense {body : Body} {r : Recognized} (h : sense body = some r) :
    Front "mapped" body.chars := by
  obtain ⟨path, hpath, -⟩ := Option.map_eq_some_iff.1 h
  have hfront := Front.sense hpath
  rwa [String.toList_ofList] at hfront

theorem front_defense {body : Body} {r : Recognized} (h : defense body = some r) :
    Front "block-parry" body.chars := by
  obtain ⟨part, more, hsplit⟩ := List.exists_cons_of_ne_nil (Text.split_ne_nil ':' body.chars)
  obtain ⟨rest, hchars, hrest⟩ := Text.split_eq_cons hsplit
  unfold defense at h
  rw [hsplit] at h
  obtain ⟨path, hpath, -⟩ := Option.map_eq_some_iff.1 h
  have hfront := Front.defense hpath hrest
  rwa [String.toList_ofList, ← hchars] at hfront

/-- Whatever a rule recognizes has a front for that rule. -/
theorem front_of_recognize {rule : Rule} (hrule : rule ∈ rules) {body : Body} {r : Recognized}
    (h : rule.recognize body = some r) : Front rule.name body.chars := by
  simp only [rules, List.mem_cons, List.not_mem_nil, or_false] at hrule
  rcases hrule with rfl | rfl | rfl | rfl | rfl | rfl | rfl | rfl | rfl | rfl | rfl | rfl
  · exact front_modifier h
  · exact front_attributeCheck h
  · exact front_targetedAttribute h
  · exact front_selfControl h
  · exact front_dice h
  · exact front_page h
  · exact front_derived h
  · exact front_skill h
  · exact front_attack h
  · exact front_dodge h
  · exact front_sense h
  · exact front_defense h

end Rollmark.Span
