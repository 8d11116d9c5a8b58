/-
Writing a span: how the kinds of actions are written as the content of a pair of brackets. What is
written is parsed as the kind that it was written for, whatever the description holds, and with the
mark for blind rolls in front as the same kind for the game master alone.

Every rule takes a text apart into runs of one class of characters. A run ends where it was written
to end because what is written behind it cannot begin with a character of its class, whatever the
description holds. Only the rule of the kind itself has to be looked at: no other one recognizes the
same content.
-/
import Mathlib.Data.List.Basic
import Rollmark.Proofs.Amount
import Rollmark.Proofs.Span.Letter

namespace Rollmark.Span

/-! ## Written forms -/

/-- A description that stays within its line and has no blanks at its ends. -/
structure IsLine (d : String) : Prop where
  trimmed : Text.trim d.toList = d.toList
  oneLine : Text.isOneLine d.toList = true

/-- A description behind a front: after a blank, or not written at all when it is empty. -/
inductive Behind : String → String → Prop
  | blank (d : String) : Behind d (" " ++ d)
  | nothing : Behind "" ""

/-- A sign and at least one digit. -/
def IsSignedNumber (s : String) : Prop :=
  ∃ sign digits, s.toList = sign :: digits ∧ Text.isSign sign = true ∧ digits ≠ [] ∧
    ∀ c ∈ digits, Text.isDecimalDigit c = true

/-- A name that may stand between quotes. -/
structure IsQuotable (name : String) : Prop where
  trimmed : Text.trim name.toList = name.toList
  nonempty : name ≠ ""
  noQuote : '"' ∉ name.toList

/-- The form of an amount with its sign, or nothing. -/
def optionalText (amount : Option Amount) : String := (amount.map Amount.signedText).getD ""

/-- An amount and its description behind a name: nothing at all when there is no amount. -/
inductive Adjusted : Option Amount → String → String → Prop
  | plain : Adjusted none "" ""
  | amount (m : Amount) {d tail : String} (htail : Behind d tail) :
      Adjusted (some m) d (m.signedText ++ tail)

/-- The mark for totals of at least one, or nothing. -/
def markText (mark : Bool) : String := if mark then "!" else ""

/-- How a kind of action is written. A modifier without a description takes the default one. -/
inductive Written (defaultDesc : String) : Action.Kind → String → Prop
  | modifier (m : Amount) {d : String} (htrim : Text.trim d.toList = d.toList) (hne : d ≠ "") :
      Written defaultDesc (.modifier m d) (m.signedText ++ (" " ++ d))
  | bareModifier (m : Amount) : Written defaultDesc (.modifier m defaultDesc) m.signedText
  | attributeCheck {name path d tail : String} (amount : Option Amount)
      (hname : attributePath? name = some path) (hd : IsLine d) (htail : Behind d tail) :
      Written defaultDesc (.attributeCheck name path amount d none)
        (name ++ (optionalText amount ++ tail))
  | targetedAttribute {name path d tail : String} {target : Amount} (hpositive : 1 ≤ target.val)
      (hname : attributePath? name = some path) (hd : IsLine d) (htail : Behind d tail) :
      Written defaultDesc (.attributeCheck name path none d (some target))
        (name ++ (target.text ++ tail))
  | selfControl {d tail : String} {target : Amount} (hnonneg : 0 ≤ target.val) (hd : IsLine d)
      (htail : Behind d tail) :
      Written defaultDesc (.selfControl target d) ("CR: " ++ (target.text ++ tail))
  | derivedRoll (base : DerivedBase) {adds d tail : String} (mark : Bool)
      (hadds : adds = "" ∨ IsSignedNumber adds) (hd : IsLine d) (htype : isDamageType d = false)
      (htail : Behind d tail) :
      Written defaultDesc (.derivedRoll base (adds ++ markText mark) d)
        (base.text ++ (adds ++ (markText mark ++ tail)))
  | derivedDamage (base : DerivedBase) {adds d tail : String} (mark : Bool)
      (hadds : adds = "" ∨ IsSignedNumber adds) (htype : isDamageType d = true)
      (htail : Behind d tail) :
      Written defaultDesc (.derivedDamage base (adds ++ markText mark) d)
        (base.text ++ (adds ++ (markText mark ++ tail)))
  | skill {name d tail : String} {amount : Option Amount} (hname : IsQuotable name)
      (htail : Adjusted amount d tail) :
      Written defaultDesc (.skill name amount d) ("S:\"" ++ (name ++ ("\"" ++ tail)))
  | attack {name d tail : String} {amount : Option Amount} (hname : IsQuotable name)
      (htail : Adjusted amount d tail) :
      Written defaultDesc (.attack name amount d) ("A:\"" ++ (name ++ ("\"" ++ tail)))
  | page {link : String} (hlink : link.toList.head? ≠ some ' ') :
      Written defaultDesc (.reference link) ("PDF:" ++ link)
  | defense {word path : String} (hword : defensePath? word = some path) :
      Written defaultDesc (.defense word none path) word
  | defenseWith {word path weapon : String} (hword : defensePath? word = some path)
      (hne : weapon ≠ "") (hcolon : ':' ∉ weapon.toList) :
      Written defaultDesc (.defense word (some weapon) path) (word ++ (":" ++ weapon))
  | dodge {word : String} (hword : word = "Dodge" ∨ word = "DODGE") : Written defaultDesc .dodge word
  | sense {word path : String} (hword : sense? word = some path) :
      Written defaultDesc (.sense path word) word

/-! ## Descriptions -/

namespace Behind

variable {d tail : String}

theorem head_eq (h : Behind d tail) : ∀ c ∈ tail.toList.head?, c = ' ' := by
  cases h with
  | blank => rw [String.toList_append]; rintro c ⟨⟩; rfl
  | nothing => nofun

/-- What does not hold of a blank does not hold of the first character. -/
theorem head_of_blank {p : Char → Bool} (hp : p ' ' = false) (h : Behind d tail) :
    ∀ c ∈ tail.toList.head?, p c = false := fun c hc => by rw [h.head_eq c hc, hp]

theorem skip_eq (h : Behind d tail) : Text.skip ' ' tail.toList = d.toList := by
  cases h with
  | blank => rw [String.toList_append]; rfl
  | nothing => rfl

theorem trim_eq (h : Behind d tail) : Text.trim tail.toList = Text.trim d.toList := by
  cases h with
  | blank =>
    rw [String.toList_append]
    exact @Text.trim_blanks_append " ".toList (List.all_eq_true.1 rfl) d.toList
  | nothing => rfl

theorem lineDesc?_eq (h : Behind d tail) (hd : IsLine d) : lineDesc? tail.toList = some d := by
  have hline : Text.isOneLine tail.toList = true := by
    cases h with
    | blank => rw [String.toList_append]; exact hd.oneLine
    | nothing => rfl
  rw [lineDesc?, if_pos hline, h.trim_eq, hd.trimmed, String.ofList_toList]

end Behind

/-- A damage type stays within its line and has no blanks at its ends. -/
theorem isLine_of_isDamageType {d : String} (h : isDamageType d = true) : IsLine d := by
  obtain ⟨w, hw⟩ := Option.isSome_iff_exists.1 h
  unfold wound? at hw
  split at hw <;> cases hw <;> exact ⟨by decide, by decide⟩

/-! ## Numbers -/

theorem not_decimalDigit_blank : Text.isDecimalDigit ' ' = false := by decide

theorem isSign_sign (m : Amount) : Text.isSign m.sign = true := by
  unfold Amount.sign
  split <;> rfl

theorem signedRun?_signedText (m : Amount) {rest : List Char}
    (hrest : ∀ c ∈ rest.head?, Text.isDecimalDigit c = false) :
    Text.signedRun? (m.signedText.toList ++ rest) = some (m.signedText.toList, rest) := by
  rw [Amount.signedText, String.toList_ofList, Amount.signedDigits_eq]
  exact Text.signedRun?_eq_some.2 ⟨m.sign, _, isSign_sign m, rfl, rfl, Text.digits_ne_nil _,
    fun _ hc => Text.isDecimalDigit_of_isDigit (Text.isDigit_of_mem_digits hc), hrest⟩

theorem read?_signedText (m : Amount) : Amount.read? m.signedText.toList = some m := by
  rw [Amount.signedText, String.toList_ofList, Amount.read?_signedDigits]

theorem optionalAmount?_optionalText (amount : Option Amount) {rest : List Char}
    (hsign : ∀ c ∈ rest.head?, Text.isSign c = false)
    (hdigit : ∀ c ∈ rest.head?, Text.isDecimalDigit c = false) :
    optionalAmount? ((optionalText amount).toList ++ rest) = some (amount, rest) := by
  unfold optionalAmount? optionalText
  cases amount with
  | none =>
    have hrun := Text.signedRun?_eq_none hsign
    rw [Option.map_none, Option.getD_none, String.toList_empty, List.nil_append, hrun]
  | some m =>
    rw [Option.map_some, Option.getD_some, signedRun?_signedText m hdigit]
    show (Amount.read? m.signedText.toList).map _ = _
    rw [read?_signedText]
    rfl

/-! ## What is recognized -/

section Recognized

variable {defaultDesc d tail name path : String} (blind : Bool)

theorem modifier_eq (m : Amount) {rest : List Char}
    (hrest : ∀ c ∈ rest.head?, Text.isDecimalDigit c = false) :
    ∃ look, modifier ⟨m.signedText.toList ++ rest, false, defaultDesc⟩ =
      some ⟨.modifier m (if (Text.trim rest).isEmpty then defaultDesc
        else String.ofList (Text.trim rest)), look⟩ := by
  simp only [modifier, Option.bind_eq_bind, signedRun?_signedText m hrest, Option.bind_some,
    read?_signedText]
  exact ⟨_, rfl⟩

theorem attributeCheck_eq (amount : Option Amount) (hname : attributePath? name = some path)
    (hd : IsLine d) (htail : Behind d tail) :
    ∃ look, attributeCheck ⟨(name ++ (optionalText amount ++ tail)).toList, blind, defaultDesc⟩ =
      some ⟨.attributeCheck name path amount d none, look⟩ := by
  have hword : ∀ c ∈ name.toList, isWordChar c = true := fun c hc => by
    simp [isWordChar, Char.isAlphanum, (attributePath?_letters hname).2 c hc]
  -- behind the name there is a blank, a sign or nothing, so the name ends there
  have hend : ∀ c ∈ ((optionalText amount).toList ++ tail.toList).head?, isWordChar c = false := by
    cases amount with
    | none => exact htail.head_of_blank (by decide)
    | some m =>
      rw [optionalText, Option.map_some, Option.getD_some, Amount.signedText, String.toList_ofList,
        Amount.signedDigits_eq]
      rintro c ⟨⟩
      rcases Text.isSign_iff.1 (isSign_sign m) with h | h <;> rw [h] <;> decide
  have hamount := optionalAmount?_optionalText amount (htail.head_of_blank (by decide))
    (htail.head_of_blank (by decide))
  simp only [attributeCheck, String.toList_append, Text.takeWhile_run hword hend,
    Text.dropWhile_run hword hend, String.ofList_toList, Option.bind_eq_bind, hname,
    Option.bind_some, hamount, htail.lineDesc?_eq hd]
  exact ⟨_, rfl⟩

theorem targetedAttribute_eq {target : Amount} (hpositive : 1 ≤ target.val)
    (hname : attributePath? name = some path) (hd : IsLine d) (htail : Behind d tail) :
    ∃ look, targetedAttribute ⟨(name ++ (target.text ++ tail)).toList, blind, defaultDesc⟩ =
      some ⟨.attributeCheck name path none d (some target), look⟩ := by
  have hnonneg : 0 ≤ target.val := by omega
  have hend : ∀ c ∈ (Text.digits target.val.natAbs ++ tail.toList).head?, c.isAlpha = false :=
    fun c hc => Text.isAlpha_of_isDecimalDigit
      (Text.isDecimalDigit_of_isDigit (Text.isDigit_of_mem_head? hc))
  have hzero : ¬ target = 0 := by
    rintro rfl
    exact absurd hpositive (by decide)
  have hletters := (attributePath?_letters hname).2
  simp only [targetedAttribute, String.toList_append, Amount.toList_text hnonneg,
    Text.takeWhile_run hletters hend,
    Text.dropWhile_run hletters hend, String.ofList_toList, Option.bind_eq_bind, hname,
    Option.bind_some, Text.digitRun?_digits _ (htail.head_of_blank not_decimalDigit_blank),
    htail.lineDesc?_eq hd, Amount.read?_digits hnonneg, if_neg hzero]
  exact ⟨_, rfl⟩

/-- The blanks around a number with its description do not count. -/
theorem trim_number (n : Nat) (hd : IsLine d) (htail : Behind d tail) : ∃ tail', Behind d tail' ∧
    Text.trim (' ' :: (Text.digits n ++ tail.toList)) = Text.digits n ++ tail'.toList := by
  have hdigit : ∀ c ∈ Text.digits n, Text.isBlank c = false := fun c hc =>
    Text.isBlank_of_isDigit (Text.isDigit_of_mem_digits hc)
  have hfront := @Text.trim_blanks_append [' '] (List.all_eq_true.1 rfl)
    (Text.digits n ++ tail.toList)
  rw [List.singleton_append] at hfront
  rw [hfront]
  by_cases hempty : d = ""
  · -- the blank before an empty description goes
    have hblank : ∀ c ∈ tail.toList, Text.isBlank c = true := by
      cases htail with
      | blank => rw [hempty]; exact List.all_eq_true.1 rfl
      | nothing => nofun
    refine ⟨"", hempty ▸ .nothing, ?_⟩
    rw [Text.trim_append_blanks hblank, Text.trim_eq_self hdigit]
    exact (List.append_nil _).symm
  · refine ⟨tail, htail, ?_⟩
    have hstart : ∀ c ∈ (Text.digits n ++ tail.toList).head?, Text.isBlank c = false := fun c hc =>
      Text.isBlank_of_isDigit (Text.isDigit_of_mem_head? hc)
    have hend : ∀ c ∈ (Text.digits n ++ tail.toList).getLast?, Text.isBlank c = false := by
      cases htail with
      | nothing => exact absurd rfl hempty
      | blank =>
        have hlast := Text.getLast?_trim d.toList
        rw [hd.trimmed] at hlast
        have hne : d.toList ≠ [] := fun h => hempty (String.toList_eq_nil_iff.1 h)
        rwa [String.toList_append, ← List.append_assoc, List.getLast?_append_of_ne_nil _ hne]
    rw [Text.trim, Text.trimStart_eq_self hstart, Text.trimEnd_eq_self hend]

theorem selfControl_eq {target : Amount} (hnonneg : 0 ≤ target.val) (hd : IsLine d)
    (htail : Behind d tail) :
    ∃ look, selfControl ⟨("CR: " ++ (target.text ++ tail)).toList, blind, defaultDesc⟩ =
      some ⟨.selfControl target d, look⟩ := by
  have hlead : Text.dropLead? "CR:".toList ("CR: " ++ (target.text ++ tail)).toList =
      some (' ' :: (Text.digits target.val.natAbs ++ tail.toList)) := by
    rw [String.toList_append, String.toList_append, Amount.toList_text hnonneg]
    rfl
  obtain ⟨tail', htail', htrim⟩ := trim_number target.val.natAbs hd htail
  simp only [selfControl, Option.bind_eq_bind, hlead, Option.bind_some, htrim,
    Text.digitRun?_digits _ (htail'.head_of_blank not_decimalDigit_blank), htail'.lineDesc?_eq hd,
    Amount.read?_digits hnonneg]
  exact ⟨_, rfl⟩

theorem optionalRun_adds {adds : String} (hadds : adds = "" ∨ IsSignedNumber adds) {rest : List Char}
    (hsign : ∀ c ∈ rest.head?, Text.isSign c = false)
    (hdigit : ∀ c ∈ rest.head?, Text.isDecimalDigit c = false) :
    optionalRun (adds.toList ++ rest) = (adds.toList, rest) := by
  rcases hadds with rfl | ⟨sign, digits, htext, hisSign, hne, hall⟩
  · rw [String.toList_empty, List.nil_append, optionalRun_eq_self hsign]
  · have hrun := Text.signedRun?_eq_some.2 ⟨sign, digits, hisSign, rfl, rfl, hne, hall, hdigit⟩
    rw [htext, List.cons_append, optionalRun, hrun, Option.getD_some]

theorem optionalMark_markText (mark : Bool) (htail : Behind d tail) :
    optionalMark ((markText mark).toList ++ tail.toList) = ((markText mark).toList, tail.toList) := by
  cases mark with
  | true => rfl
  | false =>
    have hmark : tail.toList.head? ≠ some '!' := fun h => absurd (htail.head_eq '!' h) (by decide)
    exact optionalMark_eq_self hmark

/-- What stands behind swing or thrust is taken apart where it was put together. -/
theorem derived_eq (base : DerivedBase) {adds : String} (mark : Bool)
    (hadds : adds = "" ∨ IsSignedNumber adds) (hd : IsLine d) (htail : Behind d tail) :
    ∃ look, derived ⟨(base.text ++ (adds ++ (markText mark ++ tail))).toList, blind, defaultDesc⟩ =
      some ⟨if isDamageType d then .derivedDamage base (adds ++ markText mark) d
        else .derivedRoll base (adds ++ markText mark) d, look⟩ := by
  have hhead : ∀ c ∈ ((markText mark).toList ++ tail.toList).head?, c = '!' ∨ c = ' ' := by
    cases mark with
    | true => rintro c ⟨⟩; exact .inl rfl
    | false => exact fun c hc => .inr (htail.head_eq c hc)
  have hclass : ∀ p : Char → Bool, p '!' = false → p ' ' = false →
      ∀ c ∈ ((markText mark).toList ++ tail.toList).head?, p c = false := by
    intro p hmark hblank c hc
    rcases hhead c hc with rfl | rfl
    · exact hmark
    · exact hblank
  have hrun := optionalRun_adds hadds (hclass Text.isSign rfl rfl)
    (hclass Text.isDecimalDigit (by decide) not_decimalDigit_blank)
  -- a description behind swing or thrust needs its blank
  have hstop : (tail.toList.isEmpty || tail.toList.head? == some ' ') = true := by
    cases htail with
    | blank => rw [String.toList_append]; rfl
    | nothing => rfl
  have hbase : derivedBase? (base.text.toList ++
      (adds.toList ++ ((markText mark).toList ++ tail.toList))) =
        some (base, adds.toList ++ ((markText mark).toList ++ tail.toList)) :=
    derivedBase?_eq_some.2 rfl
  have hformula : String.ofList (adds.toList ++ (markText mark).toList) = adds ++ markText mark := by
    rw [← String.toList_append, String.ofList_toList]
  simp only [derived, Option.bind_eq_bind, hbase, Option.bind_some, String.toList_append, hrun,
    optionalMark_markText mark htail, hstop, htail.lineDesc?_eq hd, hformula]
  cases isDamageType d <;> exact ⟨_, rfl⟩

/-- A name between quotes, with what stands behind it. -/
theorem name?_quoted {name : List Char} (hne : name ≠ []) (hquote : '"' ∉ name) (rest : List Char) :
    name? ('"' :: (name ++ '"' :: rest)) = some (name, rest) := by
  -- the quote keeps the form without quotes from taking anything
  have hplain : ('"' :: (name ++ '"' :: rest)).takeWhile isPlainNameChar = [] := rfl
  obtain ⟨c, cs, rfl⟩ := List.exists_cons_of_ne_nil hne
  simp only [name?, hplain, Text.takeWhile_until hquote, Text.dropWhile_until hquote]

theorem namedReference?_quoted {amount : Option Amount} (hname : IsQuotable name)
    (htail : Adjusted amount d tail) : ∃ r, namedReference? ('"' :: (name.toList ++ '"' :: tail.toList)) =
      some r ∧ r.name = name.toList ∧ r.amount = amount ∧ r.desc = d.toList := by
  have hne : name.toList ≠ [] := fun h => hname.nonempty (String.toList_eq_nil_iff.1 h)
  have hempty := List.isEmpty_eq_false_iff.2 hne
  have hquoted := name?_quoted hne hname.noQuote
  cases htail with
  | plain =>
    simp only [namedReference?, Option.bind_eq_bind, hquoted, Option.bind_some, hname.trimmed, hempty]
    exact ⟨_, rfl, rfl, rfl, rfl⟩
  | amount m htail =>
    have hrun := signedRun?_signedText m (htail.head_of_blank not_decimalDigit_blank)
    simp only [namedReference?, Option.bind_eq_bind, hquoted, Option.bind_some, hname.trimmed, hempty,
      String.toList_append, hrun, read?_signedText, htail.skip_eq]
    exact ⟨_, rfl, rfl, rfl, rfl⟩

/-- A reference by a quoted name is taken apart where it was put together. -/
theorem reference_eq (letter : Letter) {opening : String}
    (hopening : opening.toList = letter.text.toList ++ ['"']) {amount : Option Amount}
    (hname : IsQuotable name) (htail : Adjusted amount d tail) :
    ∃ look, letter.rule.recognize ⟨(opening ++ (name ++ ("\"" ++ tail))).toList, blind, defaultDesc⟩ =
      some ⟨letter.kind name amount d, look⟩ := by
  obtain ⟨r, hr, hrname, hramount, hrdesc⟩ := namedReference?_quoted hname htail
  have hchars : (opening ++ (name ++ ("\"" ++ tail))).toList =
      letter.text.toList ++ ('"' :: (name.toList ++ '"' :: tail.toList)) := by
    simp only [String.toList_append, hopening, List.append_assoc, List.singleton_append]
    rfl
  rw [hchars, letter.recognize_eq, hr, Option.map_some, Letter.recognized, hrname, hramount, hrdesc,
    String.ofList_toList, String.ofList_toList]
  exact ⟨_, rfl⟩

theorem page_eq {link : String} (hlink : link.toList.head? ≠ some ' ') :
    ∃ look, page ⟨("PDF:" ++ link).toList, blind, defaultDesc⟩ = some ⟨.reference link, look⟩ := by
  have hlead : Text.dropLead? "PDF:".toList ("PDF:" ++ link).toList = some link.toList :=
    Text.dropLead?_eq_some.2 String.toList_append
  have hstart : link.toList.dropWhile (· == ' ') = link.toList :=
    @Text.dropWhile_run (· == ' ') [] link.toList nofun fun c hc =>
      beq_false_of_ne fun h => hlink (h ▸ hc)
  simp only [page, Option.bind_eq_bind, hlead, Option.bind_some, hstart, String.ofList_toList]
  exact ⟨_, rfl⟩

theorem colon_notMem {word : String} (hword : defensePath? word = some path) : ':' ∉ word.toList :=
  fun h => absurd ((defensePath?_letters hword).2 ':' h) (by decide)

theorem defense_eq {word : String} (hword : defensePath? word = some path) :
    ∃ look, defense ⟨word.toList, blind, defaultDesc⟩ = some ⟨.defense word none path, look⟩ := by
  simp only [defense, Text.split_of_notMem (colon_notMem hword), List.map_cons, List.map_nil,
    String.ofList_toList, hword, Option.map_some]
  exact ⟨_, rfl⟩

theorem defenseWith_eq {word weapon : String} (hword : defensePath? word = some path)
    (hne : weapon ≠ "") (hcolon : ':' ∉ weapon.toList) :
    ∃ look, defense ⟨(word ++ (":" ++ weapon)).toList, blind, defaultDesc⟩ =
      some ⟨.defense word (some weapon) path, look⟩ := by
  have htext : (word ++ (":" ++ weapon)).toList = word.toList ++ ':' :: weapon.toList := by
    simp only [String.toList_append]
    rfl
  have hfilter : ((some weapon).filter fun weapon => !weapon.isEmpty) = some weapon := by
    simp [hne]
  simp only [defense, htext, Text.split_append (colon_notMem hword), Text.split_of_notMem hcolon,
    List.map_cons, List.map_nil, String.ofList_toList, hword, Option.map_some, List.head?_cons, hfilter]
  exact ⟨_, rfl⟩

theorem dodge_eq {word : String} (hword : word = "Dodge" ∨ word = "DODGE") :
    ∃ look, dodge ⟨word.toList, blind, defaultDesc⟩ = some ⟨.dodge, look⟩ := by
  rcases hword with rfl | rfl <;> exact ⟨_, rfl⟩

theorem sense_eq {word : String} (hword : sense? word = some path) :
    ∃ look, sense ⟨word.toList, blind, defaultDesc⟩ = some ⟨.sense path word, look⟩ := by
  simp only [sense, String.ofList_toList, hword, Option.map_some]
  exact ⟨_, rfl⟩

end Recognized

/-! ## What is parsed -/

/-- What is written for a kind is recognized as that kind, by its own rule. -/
theorem recognize_written {defaultDesc text : String} {kind : Action.Kind}
    (h : Written defaultDesc kind text) {blind : Bool}
    (hblind : blind = true → ∀ m d, kind ≠ .modifier m d) :
    ∃ rule ∈ rules, ∃ look,
      rule.recognize ⟨text.toList, blind, defaultDesc⟩ = some ⟨kind, look⟩ := by
  cases h with
  | @modifier m d htrim hne =>
    -- a blind modifier is refused, and here it is excluded
    obtain rfl : blind = false := Bool.eq_false_iff.2 fun hb => hblind hb m d rfl
    refine ⟨⟨"modifier", Span.modifier⟩, by simp [rules], ?_⟩
    obtain ⟨look, hlook⟩ := @modifier_eq defaultDesc m (" " ++ d).toList
      ((Behind.blank d).head_of_blank not_decimalDigit_blank)
    have hdesc : (Text.trim (" " ++ d).toList) = d.toList := by rw [(Behind.blank d).trim_eq, htrim]
    rw [hdesc, if_neg (by simpa using hne), String.ofList_toList, ← String.toList_append] at hlook
    exact ⟨look, hlook⟩
  | bareModifier m =>
    obtain rfl : blind = false := Bool.eq_false_iff.2 fun hb => hblind hb m _ rfl
    refine ⟨⟨"modifier", Span.modifier⟩, by simp [rules], ?_⟩
    obtain ⟨look, hlook⟩ := @modifier_eq defaultDesc m [] (by simp)
    rw [List.append_nil] at hlook
    exact ⟨look, hlook⟩
  | attributeCheck amount hname hd htail =>
    exact ⟨⟨"attribute", Span.attributeCheck⟩, by simp [rules],
      attributeCheck_eq blind amount hname hd htail⟩
  | targetedAttribute hpositive hname hd htail =>
    exact ⟨⟨"targeted-attribute", Span.targetedAttribute⟩, by simp [rules],
      targetedAttribute_eq blind hpositive hname hd htail⟩
  | selfControl hnonneg hd htail =>
    exact ⟨⟨"self-control", Span.selfControl⟩, by simp [rules],
      selfControl_eq blind hnonneg hd htail⟩
  | derivedRoll base mark hadds hd htype htail =>
    refine ⟨⟨"derived", derived⟩, by simp [rules], ?_⟩
    obtain ⟨look, hlook⟩ := @derived_eq defaultDesc _ _ blind base _ mark hadds hd htail
    rw [if_neg (Bool.eq_false_iff.1 htype)] at hlook
    exact ⟨look, hlook⟩
  | derivedDamage base mark hadds htype htail =>
    refine ⟨⟨"derived", derived⟩, by simp [rules], ?_⟩
    obtain ⟨look, hlook⟩ :=
      @derived_eq defaultDesc _ _ blind base _ mark hadds (isLine_of_isDamageType htype) htail
    rw [if_pos htype] at hlook
    exact ⟨look, hlook⟩
  | skill hname htail =>
    exact ⟨Letter.skill.rule, Letter.skill.rule_mem, reference_eq blind .skill rfl hname htail⟩
  | attack hname htail =>
    exact ⟨Letter.attack.rule, Letter.attack.rule_mem, reference_eq blind .attack rfl hname htail⟩
  | page hlink => exact ⟨⟨"pdf", Span.page⟩, by simp [rules], page_eq blind hlink⟩
  | defense hword => exact ⟨⟨"block-parry", Span.defense⟩, by simp [rules], defense_eq blind hword⟩
  | defenseWith hword hne hcolon =>
    exact ⟨⟨"block-parry", Span.defense⟩, by simp [rules], defenseWith_eq blind hword hne hcolon⟩
  | dodge hword => exact ⟨⟨"dodge", Span.dodge⟩, by simp [rules], dodge_eq blind hword⟩
  | sense hword => exact ⟨⟨"mapped", Span.sense⟩, by simp [rules], sense_eq blind hword⟩

/-- What is written for a kind of action is parsed as an action of that kind, and with the mark for
blind rolls in front of it as a blind one; only modifiers are never blind. -/
theorem parse_written {defaultDesc text : String} {kind : Action.Kind}
    (h : Written defaultDesc kind text) (colored : Bool) :
    (parse text defaultDesc colored).action = some ⟨text, false, kind⟩ ∧
      ((∀ m d, kind ≠ .modifier m d) →
        (parse ("!" ++ text) defaultDesc colored).action = some ⟨"!" ++ text, true, kind⟩) := by
  constructor
  · obtain ⟨rule, hrule, look, hlook⟩ := @recognize_written _ _ _ h false nofun
    have hbody := body?_of_front (front_of_recognize hrule hlook) defaultDesc
    exact parse_of_recognize hbody hrule hlook colored
  · intro hkind
    obtain ⟨rule, hrule, look, hlook⟩ := @recognize_written _ _ _ h true fun _ => hkind
    have hbody := body?_mark_append (front_of_recognize hrule hlook) defaultDesc
    exact parse_of_recognize hbody hrule hlook colored

/-- A quoted name with a blank in it, the least amount, and a description with brackets. -/
theorem parse_written_attack :
    let least : Amount := ⟨-2147483648, by decide, by decide⟩
    let text := "A:\"Broadsword (Swing)\"-2147483648 \n]["
    let kind : Action.Kind := .attack "Broadsword (Swing)" (some least) "\n]["
    Written "" kind text ∧
      (parse ("!" ++ text) "" true).action = some ⟨"!" ++ text, true, kind⟩ := by
  intro least text kind
  have hname : IsQuotable "Broadsword (Swing)" := ⟨by decide, by decide, by decide⟩
  have htail : Adjusted (some least) "\n][" (least.signedText ++ (" " ++ "\n][")) :=
    .amount least (.blank "\n][")
  have hleast : least.signedText = "-2147483648" := by decide +kernel
  have hwritten : Written "" kind text := by
    have hattack := @Written.attack "" _ _ _ _ hname htail
    rwa [hleast] at hattack
  have hkind : ∀ m d, kind ≠ .modifier m d := by simp [kind]
  exact ⟨hwritten, (parse_written hwritten true).2 hkind⟩

/-- Behind an attribute, a self-control number, swing or thrust a line feed in the description leaves
nothing that is recognized, and blanks at its ends are lost. -/
theorem parse_not_isLine :
    (∀ text ∈ ["ST lift\nnow", "ST12 lift\nnow", "CR: 12 lift\nnow", "SW lift\nnow"],
      (parse text "" true).action = none) ∧
    (parse "ST  lift" "" true).action =
      some ⟨"ST  lift", false, .attributeCheck "ST" "attributes.ST.value" none "lift" none⟩ ∧
    (parse "ST12  lift" "" true).action =
      some ⟨"ST12  lift", false, .attributeCheck "ST" "attributes.ST.value" none "lift" (some 12)⟩ ∧
    (parse "CR: 12  lift" "" true).action = some ⟨"CR: 12  lift", false, .selfControl 12 "lift"⟩ ∧
    (parse "SW  lift" "" true).action = some ⟨"SW  lift", false, .derivedRoll .swing "" "lift"⟩ := by
  decide

end Rollmark.Span
