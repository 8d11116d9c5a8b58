/-
Typed dice: a count, the letter `d`, perhaps a six, and the parts of a formula with some words behind
them are taken apart where they were typed, and put together again as a formula.

The rule for dice and the formulas each take a text apart on their own. What makes them agree is that
both find a part by the characters with which it begins, and that every part ends where a character of
another kind follows it. Behind the multiplier a blank may stand either before the armor divisor and the
mark or before the words; when there are neither divisor nor mark it is the same blank.
-/
import Rollmark.Proofs.Formula.Sixes
import Rollmark.Proofs.Formula.Total
import Rollmark.Proofs.Span.Written

namespace Rollmark.Span

open Text (Numeral SignedNumeral)
open Formula (Times Divisor Layout BeginsIn markChars)

/-! ## Typed texts -/

/-- Dice as they are typed: `3d6+1x2(0.5)! cut`. The numbers are within the limits of a formula. -/
structure DiceText where
  count : Numeral
  /-- Whether the six sides are typed. -/
  six : Bool
  adds : Option SignedNumeral
  multiplier : Option Times
  divisor : Option Divisor
  minOne : Bool
  words : String
  /-- The words behind a blank, or nothing. -/
  tail : String
  count_le : count.value ≤ Formula.limit
  adds_fits : ∀ a ∈ adds, Amount.Fits a.value
  multiplier_le : ∀ k ∈ multiplier, k.number.value ≤ Formula.limit
  isLine : IsLine words
  begins : ∀ c ∈ words.toList.head?, c.isAlpha = true
  behind : Behind words tail

namespace DiceText

/-- The typed parts as a formula without sides. -/
def layout (t : DiceText) : Layout :=
  ⟨t.count, none, t.adds.toList, t.multiplier, t.divisor, t.minOne⟩

/-- The parts that count for a roll: the multiplier behind a star, and no armor divisor. -/
def rolledLayout (t : DiceText) : Layout :=
  { t.layout with
    multiplier := t.multiplier.map fun k => { k with letter := '*', isTimes := rfl }
    divisor := none }

/-- The whole text. -/
def text (t : DiceText) : String :=
  String.ofList { t.layout with sides := if t.six then some Formula.sixSides else none }.chars ++ t.tail

end DiceText

/-! ## Taking the text apart -/

theorem Behind.beginsIn {words tail : String} (h : Behind words tail) : BeginsIn [' '] tail.toList := by
  intro c hc
  rw [h.head_eq c hc]
  exact List.mem_singleton_self ' '

theorem optionalRun_chars (adds : Option SignedNumeral) {rest : List Char}
    (hrest : BeginsIn ['x', 'X', '*', '(', '!', ' '] rest) :
    optionalRun (adds.toList.flatMap SignedNumeral.chars ++ rest) =
      (adds.toList.flatMap SignedNumeral.chars, rest) := by
  have hdigit := hrest.class_eq_false (p := Text.isDecimalDigit) (by decide)
  have hsign := hrest.class_eq_false (p := Text.isSign) (by decide)
  cases adds with
  | none => exact optionalRun_eq_self hsign
  | some a =>
    have hrun := Text.signedRun?_eq_some.2 ⟨a.sign, a.number.chars, Formula.isSign_sign a, rfl, rfl,
      a.number.ne_nil, Formula.isDecimalDigit_chars a.number, hdigit⟩
    have hchars : (some a).toList.flatMap SignedNumeral.chars = a.sign :: a.number.chars := by
      simp [SignedNumeral.chars]
    rw [hchars, List.cons_append, optionalRun, hrun, Option.getD_some]

theorem optionalMultiplier_chars (k : Option Times) {rest : List Char}
    (hrest : BeginsIn ['(', '!', ' '] rest) :
    optionalMultiplier (k.elim [] Times.chars ++ rest) = (k.elim [] Times.chars, rest) := by
  cases k with
  | some k =>
    have hdigit := hrest.class_eq_false (p := Text.isDecimalDigit) (by decide)
    have hrun := Text.digitRun?_eq_some.2
      ⟨rfl, k.number.ne_nil, Formula.isDecimalDigit_chars k.number, hdigit⟩
    show optionalMultiplier (k.letter :: (k.number.chars ++ rest)) = (k.letter :: k.number.chars, rest)
    rw [optionalMultiplier, if_pos k.isTimes, hrun]
  | none =>
    have hletter := hrest.class_eq_false (p := Formula.isTimes) (by decide)
    show optionalMultiplier rest = ([], rest)
    cases rest with
    | nil => rfl
    | cons c rest =>
      have hc : Formula.isTimes c = false := hletter c rfl
      rw [optionalMultiplier, hc]
      rfl

theorem optionalDivisor_eq_self {cs : List Char} (h : cs.head? ≠ some '(') :
    optionalDivisor cs = ([], cs) := by
  have hread : Formula.divisor? cs = some (none, cs) := by
    unfold Formula.divisor?
    split
    · exact absurd rfl h
    · rfl
  rw [optionalDivisor, hread]

section Ends

variable {words tail : String}

theorem head_words_ne (hwords : ∀ c ∈ words.toList.head?, c.isAlpha = true) {c : Char}
    (hc : c.isAlpha = false) : words.toList.head? ≠ some c := by
  intro hhead
  rw [hwords c hhead] at hc
  cases hc

/-- Behind the multiplier the armor divisor, the mark and the words are taken one after the other. -/
theorem optionalDivisor_chars (d : Option Divisor) (minOne : Bool)
    (hwords : ∀ c ∈ words.toList.head?, c.isAlpha = true) (htail : Behind words tail) :
    ∃ behindDivisor behindMark,
      optionalDivisor (Text.skip ' ' (d.elim [] Divisor.chars ++ (markChars minOne ++ tail.toList))) =
        (d.elim [] Divisor.chars, behindDivisor) ∧
      optionalMark behindDivisor = (markChars minOne, behindMark) ∧
      Text.skip ' ' behindMark = words.toList := by
  have hmark := Formula.beginsIn_markChars minOne htail.beginsIn
  cases d with
  | some d =>
    refine ⟨markChars minOne ++ tail.toList, tail.toList, ?_, ?_, htail.skip_eq⟩
    · have hread := Formula.divisor?_chars (some d) hmark
      rw [Text.skip_eq_self (by rintro ⟨⟩), optionalDivisor, hread]
      simp [Divisor.chars]
    · cases minOne with
      | true => rfl
      | false => exact optionalMark_eq_self fun h => absurd (htail.head_eq '!' h) (by decide)
  | none =>
    cases minOne with
    | true => exact ⟨'!' :: tail.toList, tail.toList, rfl, rfl, htail.skip_eq⟩
    | false =>
      -- the blank before the words is already gone
      refine ⟨words.toList, words.toList, ?_, optionalMark_eq_self (head_words_ne hwords rfl),
        Text.skip_eq_self (head_words_ne hwords rfl)⟩
      show optionalDivisor (Text.skip ' ' tail.toList) = ([], words.toList)
      rw [htail.skip_eq, optionalDivisor_eq_self (head_words_ne hwords rfl)]

end Ends

namespace DiceText

variable (t : DiceText)

theorem skip_six {rest : List Char} (hrest : ∀ c ∈ rest.head?, Text.isDecimalDigit c = false) :
    Text.skip '6' ((if t.six then some Formula.sixSides else none).elim [] Numeral.chars ++ rest) = rest := by
  cases t.six with
  | true => rfl
  | false =>
    have hsix : rest.head? ≠ some '6' := fun h => absurd (hrest '6' h) (by decide)
    exact Text.skip_eq_self hsix

/-- Typed dice are taken apart where they were typed. -/
theorem typedDice?_text : typedDice? t.text.toList =
    some ⟨t.count.chars, t.adds.toList.flatMap SignedNumeral.chars, t.multiplier.elim [] Times.chars,
      t.divisor.elim [] Divisor.chars, markChars t.minOne, t.words.toList⟩ := by
  -- what stands behind each part, from the last one to the first
  have hmark := Formula.beginsIn_markChars t.minOne t.behind.beginsIn
  have hdivisor := Formula.beginsIn_divisor t.divisor hmark
  have hmultiplier := Formula.beginsIn_multiplier t.multiplier hdivisor
  have hadds := Formula.beginsIn_terms t.adds.toList hmultiplier
  obtain ⟨behindDivisor, behindMark, htakenDivisor, htakenMark, hwords⟩ :=
    optionalDivisor_chars t.divisor t.minOne t.begins t.behind
  have hcount : ∀ rest, Text.digitRun? (t.count.chars ++ 'd' :: rest) = some (t.count.chars, 'd' :: rest) :=
    fun rest => Text.digitRun?_eq_some.2
      ⟨rfl, t.count.ne_nil, Formula.isDecimalDigit_chars t.count, by rintro c ⟨⟩; decide⟩
  have hletter : ∀ rest, Text.dropLead? ['d'] ('d' :: rest) = some rest := fun rest =>
    Text.dropLead?_append ['d'] rest
  have hsix := t.skip_six (hadds.class_eq_false (p := Text.isDecimalDigit) (by decide))
  simp only [text, String.toList_append, String.toList_ofList, Layout.chars, Layout.behindSides, layout,
    List.append_assoc, List.cons_append, typedDice?, Option.bind_eq_bind, hcount, Option.bind_some, hletter,
    hsix, optionalRun_chars t.adds hmultiplier, optionalMultiplier_chars t.multiplier hdivisor,
    htakenDivisor, htakenMark, hwords, t.isLine.oneLine, t.isLine.trimmed, Bool.not_true,
    Bool.false_eq_true, if_false]

/-- Damage when the words are a damage type, and a roll otherwise. -/
def kind : Action.Kind :=
  if isDamageType t.words then .damage (String.ofList t.layout.chars) t.words
  else .roll (String.ofList t.rolledLayout.chars) t.words

theorem dice_text (defaultDesc : String) :
    ∃ look, dice ⟨t.text.toList, false, defaultDesc⟩ = some ⟨t.kind, look⟩ := by
  -- the rule joins the parts to the text of one of the two layouts
  have hdamage : t.count.chars ++ ['d'] ++ t.adds.toList.flatMap SignedNumeral.chars ++
      t.multiplier.elim [] Times.chars ++ t.divisor.elim [] Divisor.chars ++ markChars t.minOne =
        t.layout.chars := by
    simp [Layout.chars, Layout.behindSides, layout]
  have hstarred : starred (t.multiplier.elim [] Times.chars) =
      t.rolledLayout.multiplier.elim [] Times.chars := by
    unfold rolledLayout
    cases t.multiplier with
    | none => rfl
    | some k => rfl
  have hroll : t.count.chars ++ ['d'] ++ t.adds.toList.flatMap SignedNumeral.chars ++
      starred (t.multiplier.elim [] Times.chars) ++ markChars t.minOne = t.rolledLayout.chars := by
    rw [hstarred]
    simp [Layout.chars, Layout.behindSides, rolledLayout, layout]
  simp only [dice, Option.bind_eq_bind, t.typedDice?_text, Option.bind_some, String.ofList_toList, hdamage,
    hroll, kind]
  cases isDamageType t.words <;> exact ⟨_, rfl⟩

/-- Typed dice are parsed as what they come down to, and they are not blind. -/
theorem parse_text (defaultDesc : String) (colored : Bool) :
    (parse t.text defaultDesc colored).action = some ⟨t.text, false, t.kind⟩ := by
  obtain ⟨look, hlook⟩ := t.dice_text defaultDesc
  have hrule : (⟨"dice", dice⟩ : Rule) ∈ rules := by simp [rules]
  have hbody := body?_of_front (front_of_recognize hrule hlook) defaultDesc
  exact parse_of_recognize hbody hrule hlook colored

/-! ## Reading what was put together -/

/-- The typed adds, zero when there are none. -/
def added : Int := t.adds.elim 0 SignedNumeral.value

/-- The typed multiplier, one when there is none. -/
def factor : Nat := t.multiplier.elim 1 fun k => k.number.value

/-- The formula that is typed. -/
def formula : Formula :=
  ⟨t.count.value, 6, .clamp t.added, t.multiplier.map (·.number.value), t.divisor.map (String.ofList ·.inside),
    t.minOne⟩

/-- The formula of a roll, for which an armor divisor means nothing. -/
def rolledFormula : Formula := { t.formula with armorDivisor := none }

theorem added_fits : Amount.Fits t.added := by
  unfold added
  cases h : t.adds with
  | none => exact Amount.fits_zero
  | some a => exact t.adds_fits a h

theorem factor_le : t.factor ≤ Formula.limit := by
  unfold factor
  cases h : t.multiplier with
  | none => decide
  | some k => exact t.multiplier_le k h

theorem sum_adds : (t.adds.toList.map SignedNumeral.value).sum = t.added := by
  unfold added
  cases t.adds with
  | none => rfl
  | some a => exact Int.add_zero a.value

/-- With at most one term there is at most one sum on the way. -/
theorem sums_fit {before : List Int} (h : before <+: t.adds.toList.map SignedNumeral.value) :
    Amount.Fits before.sum := by
  cases hadds : t.adds with
  | none =>
    rw [hadds] at h
    obtain rfl := List.prefix_nil.1 h
    exact Amount.fits_zero
  | some a =>
    rw [hadds] at h
    exact (t.adds_fits a hadds).sum_of_singleton h

theorem within_layout : t.layout.Within where
  count := t.count_le
  sides := nofun
  terms := by simpa [layout] using t.adds_fits
  sums := fun _ => t.sums_fit
  multiplier := t.multiplier_le

theorem read?_layout : Formula.read? (String.ofList t.layout.chars) = some t.formula := by
  have hformula : t.layout.formula = t.formula := by
    unfold Layout.formula formula
    rw [← t.sum_adds]
    rfl
  rw [Formula.read?_chars t.within_layout, hformula]

/-- What is rolled is what was typed, except for the armor divisor. -/
theorem read?_rolledLayout :
    Formula.read? (Formula.withSixes (String.ofList t.rolledLayout.chars)) = some t.rolledFormula := by
  have hwithin : ({ t.rolledLayout with sides := some Formula.sixSides } : Layout).Within :=
    { t.within_layout with
      sides := by rintro n ⟨⟩; decide
      multiplier := by
        intro k hk
        obtain ⟨typed, htyped, rfl⟩ := Option.map_eq_some_iff.1 hk
        exact t.multiplier_le typed htyped }
  have hformula : ({ t.rolledLayout with sides := some Formula.sixSides } : Layout).formula =
      t.rolledFormula := by
    unfold Layout.formula rolledFormula formula
    rw [← t.sum_adds]
    simp only [rolledLayout, layout, Option.map_map]
    rfl
  rw [Formula.withSixes_chars rfl, Formula.read?_chars hwithin, hformula]

/-! ## The total -/

theorem val_adds_rolledFormula : t.rolledFormula.adds.val = t.added := t.added_fits.val_clamp

theorem multiplier_rolledFormula : t.rolledFormula.multiplier.getD 1 = t.factor := by
  unfold rolledFormula formula factor
  cases t.multiplier <;> rfl

theorem exactProduct_rolledFormula (faces : List Nat) :
    t.rolledFormula.exactProduct faces = ((faces.sum : Nat) + t.added) * (t.factor : Nat) := by
  rw [Formula.exactProduct, val_adds_rolledFormula, multiplier_rolledFormula]

/-- The total of a roll in the numbers that are typed. -/
theorem val_total_rolledFormula {faces : List Nat} {modifier : Amount}
    (hfaces : faces.sum ≤ t.count.value * 6) (hadds : Amount.Fits ((faces.sum : Nat) + t.added))
    (hproduct : Amount.Fits (((faces.sum : Nat) + t.added) * (t.factor : Nat)))
    (hplain : Amount.Fits (((faces.sum : Nat) + t.added) * (t.factor : Nat) + modifier.val)) :
    let plain := ((faces.sum : Nat) + t.added) * (t.factor : Nat) + modifier.val
    (t.rolledFormula.total faces modifier).val = if t.minOne = true ∧ plain < 1 then 1 else plain := by
  intro plain
  -- at most a thousand dice and a multiplier of at most a thousand never leave the limits
  have hcount : t.count.value ≤ 1000 := t.count_le
  have hfactor : t.factor ≤ 1000 := t.factor_le
  have hexact : t.rolledFormula.Exact faces modifier.val :=
    { sum := by constructor <;> omega
      adds := by rwa [val_adds_rolledFormula]
      factor := by
        rw [multiplier_rolledFormula]
        constructor <;> omega
      product := by rwa [exactProduct_rolledFormula]
      plain := by rwa [exactProduct_rolledFormula] }
  rw [Formula.val_total hexact, Formula.exactTotal, exactProduct_rolledFormula]
  rfl

end DiceText

end Rollmark.Span
