/-
Rolls that can be typed but not rolled. Dice are recognized by decimal digits of any script, and rolled only
when their numbers are written in the digits `0` to `9`, up to the limit of a formula and with adds that
are an amount. The rule for dice and the formulas agree on everything else: the sign, the letter of the
multiplier and the mark are found in the same places, and the six that is put in behind the `d` is the only
one.
-/
import Rollmark.Proofs.Formula.Spacing
import Rollmark.Proofs.Intent
import Rollmark.Proofs.Report
import Rollmark.Proofs.Span.Blind

namespace Rollmark

namespace Span

/-! ## Numbers behind a character -/

/-- In front of a text stands a number behind one of some characters, and it ends where its digits end; or
no such number stands there. -/
inductive NumberBehind (lead : Char → Bool) : List Char → List Char → List Char → Prop
  | written {c : Char} {digits rest : List Char} (hc : lead c = true) (hne : digits ≠ [])
      (hdigits : ∀ d ∈ digits, Text.isDecimalDigit d = true)
      (hrest : ∀ d ∈ rest.head?, Text.isDecimalDigit d = false) :
      NumberBehind lead (c :: (digits ++ rest)) (c :: digits) rest
  | missing {cs : List Char}
      (h : ∀ c d more, cs = c :: d :: more → lead c = true → Text.isDecimalDigit d = false) :
      NumberBehind lead cs [] cs

section Found

variable {lead : Char → Bool} {c : Char} {cs : List Char}

theorem NumberBehind.of_some {digits rest : List Char}
    (h : (if lead c then Text.digitRun? cs else none) = some (digits, rest)) :
    NumberBehind lead (c :: cs) (c :: digits) rest := by
  obtain ⟨hc, hrun⟩ := Option.ite_none_right_eq_some.1 h
  obtain ⟨rfl, hne, hdigits, hrest⟩ := Text.digitRun?_eq_some.1 hrun
  exact .written hc hne hdigits hrest

theorem NumberBehind.of_none (h : (if lead c then Text.digitRun? cs else none) = none) :
    NumberBehind lead (c :: cs) [] (c :: cs) := by
  refine .missing ?_
  rintro c' d more ⟨⟩ hc
  rw [if_pos hc] at h
  exact Text.digitRun?_eq_none.1 h d rfl

end Found

theorem numberBehind_optionalMultiplier (cs : List Char) :
    NumberBehind Formula.isTimes cs (optionalMultiplier cs).1 (optionalMultiplier cs).2 := by
  cases cs with
  | nil => exact .missing (by rintro c d more ⟨⟩)
  | cons c cs =>
    rw [optionalMultiplier]
    cases hrun : (if Formula.isTimes c then Text.digitRun? cs else none) with
    | none => exact .of_none hrun
    | some run => exact .of_some hrun

theorem numberBehind_optionalRun (cs : List Char) :
    NumberBehind Text.isSign cs (optionalRun cs).1 (optionalRun cs).2 := by
  cases cs with
  | nil => exact .missing (by rintro c d more ⟨⟩)
  | cons c cs =>
    rw [optionalRun, Text.signedRun?_cons]
    cases hrun : (if Text.isSign c then Text.digitRun? cs else none) with
    | none => exact .of_none hrun
    | some run => exact .of_some hrun

/-! ## Typed numbers -/

/-- The number that a sign and digits stand for, zero for nothing. -/
def signedValue (part : List Char) : Int :=
  if part.head? = some '-' then -(Text.valueOf part.tail : Int) else Text.valueOf part.tail

/-- The numbers of typed dice. The adds are behind their sign and the multiplier is behind its letter, and
they are empty when they are missing. -/
structure TypedNumbers where
  count : List Char
  adds : List Char
  multiplier : List Char

namespace TypedNumbers

/-- A text begins with these numbers: the count, the letter `d`, perhaps a six, the adds and the
multiplier. -/
structure Begin (n : TypedNumbers) (cs : List Char) : Prop where
  count_ne_nil : n.count ≠ []
  isDecimalDigit : ∀ c ∈ n.count, Text.isDecimalDigit c = true
  behind : ∃ behindLetter behindAdds rest, cs = n.count ++ 'd' :: behindLetter ∧
    NumberBehind Text.isSign (Text.skip '6' behindLetter) n.adds behindAdds ∧
    NumberBehind Formula.isTimes behindAdds n.multiplier rest

/-- The digits of all numbers. -/
def digits (n : TypedNumbers) : List Char := n.count ++ (n.adds.tail ++ n.multiplier.tail)

/-- A number is beyond its limit. -/
def Beyond (n : TypedNumbers) : Prop :=
  Formula.limit < Text.valueOf n.count ∨ Formula.limit < Text.valueOf n.multiplier.tail ∨
    ¬ Amount.Fits (signedValue n.adds)

/-- The formula that the rule for dice makes of the numbers. -/
def formula (n : TypedNumbers) (minOne : Bool) : List Char :=
  n.count ++ 'd' :: (n.adds ++ (starred n.multiplier ++ Formula.markChars minOne))

end TypedNumbers

/-- Only the rule for dice recognizes rolls. -/
theorem dice_of_roll {rule : Rule} (hrule : rule ∈ rules) {body : Body} {r : Recognized}
    (h : rule.recognize body = some r) {formula desc : String} (hkind : r.kind = .roll formula desc) :
    dice body = some r := by
  have hmem := name_mem_ruleNames hrule h
  rw [hkind, ruleNames, List.mem_singleton] at hmem
  simp only [rules, List.mem_cons, List.not_mem_nil, or_false] at hrule
  rcases hrule with rfl | rfl | rfl | rfl | rfl | rfl | rfl | rfl | rfl | rfl | rfl | rfl
  case inr.inr.inr.inr.inl => exact h
  all_goals exact absurd hmem (by decide)

theorem exists_markChars (cs : List Char) : ∃ minOne, (optionalMark cs).1 = Formula.markChars minOne := by
  unfold optionalMark
  split
  · exact ⟨true, rfl⟩
  · exact ⟨false, rfl⟩

/-- Where typed dice are found, a text begins with their numbers. -/
theorem begin_of_typedDice? {cs : List Char} {typed : TypedDice} (h : typedDice? cs = some typed) :
    (⟨typed.count, typed.adds, typed.multiplier⟩ : TypedNumbers).Begin cs ∧
      ∃ minOne, typed.mark = Formula.markChars minOne := by
  simp only [typedDice?, Option.bind_eq_bind, Option.bind_eq_some_iff, Prod.exists, Option.bind_none,
    Option.ite_none_left_eq_some, Option.some.injEq] at h
  obtain ⟨count, behindCount, hcount, behindLetter, hletter, -, rfl⟩ := h
  obtain ⟨rfl, hne, hdigits, -⟩ := Text.digitRun?_eq_some.1 hcount
  rw [Text.dropLead?_eq_some.1 hletter]
  exact ⟨⟨hne, hdigits, behindLetter, _, _, rfl, numberBehind_optionalRun _,
    numberBehind_optionalMultiplier _⟩, exists_markChars _⟩

/-- What is parsed to a roll begins with the numbers of its formula, behind a mark for blind rolls if there
is one. -/
theorem exists_numbers {text defaultDesc : String} {colored : Bool} {a : Action} {formula desc : String}
    (h : (parse text defaultDesc colored).action = some a) (hkind : a.kind = .roll formula desc) :
    ∃ (n : TypedNumbers) (minOne : Bool), n.Begin (Text.skip '!' text.toList) ∧
      formula = String.ofList (n.formula minOne) := by
  obtain ⟨body, hbody, rule, hrule, r, hr, rfl⟩ := parse_eq_some_iff.1 h
  have hdice := dice_of_roll hrule hr hkind
  rw [← chars_of_body? hbody]
  simp only [dice, Option.bind_eq_bind, Option.bind_eq_some_iff] at hdice
  obtain ⟨typed, htyped, hroll⟩ := hdice
  obtain ⟨hbegin, minOne, hmark⟩ := begin_of_typedDice? htyped
  split at hroll
  · cases hroll
    cases hkind
  · cases hroll
    cases hkind
    refine ⟨_, minOne, hbegin, congrArg String.ofList ?_⟩
    rw [TypedNumbers.formula, ← hmark]
    simp

/-! ## Optional numbers -/

/-- Nothing, or a character with decimal digits behind it, at least one. -/
def IsOptionalNumber (lead : Char → Bool) (part : List Char) : Prop :=
  part = [] ∨ ∃ c digits, part = c :: digits ∧ lead c = true ∧ digits ≠ [] ∧
    ∀ d ∈ digits, Text.isDecimalDigit d = true

theorem NumberBehind.isOptionalNumber {lead : Char → Bool} {cs part rest : List Char}
    (h : NumberBehind lead cs part rest) : IsOptionalNumber lead part := by
  cases h with
  | written hc hne hdigits _ => exact .inr ⟨_, _, rfl, hc, hne, hdigits⟩
  | missing _ => exact .inl rfl

namespace IsOptionalNumber

variable {lead : Char → Bool} {part : List Char}

theorem mem (h : IsOptionalNumber lead part) : ∀ c ∈ part, lead c = true ∨ Text.isDecimalDigit c = true := by
  rcases h with rfl | ⟨first, digits, rfl, hlead, -, hdigits⟩
  · rintro c ⟨⟩
  · intro c hc
    rcases List.mem_cons.1 hc with rfl | hdigit
    · exact .inl hlead
    · exact .inr (hdigits c hdigit)

theorem beginsIn (h : IsOptionalNumber lead part) (leads : List Char) {allowed rest : List Char}
    (hleads : ∀ c, lead c = true → c ∈ leads) (hrest : Formula.BeginsIn allowed rest) :
    Formula.BeginsIn (leads ++ allowed) (part ++ rest) := by
  rcases h with rfl | ⟨first, digits, rfl, hlead, -⟩
  · exact fun c hc => List.mem_append_right leads (hrest c hc)
  · rintro c ⟨⟩
    exact List.mem_append_left allowed (hleads first hlead)

/-- The star takes the place of the letter. -/
theorem starred (h : IsOptionalNumber lead part) : IsOptionalNumber (· == '*') (starred part) := by
  rcases h with rfl | ⟨letter, digits, rfl, -, hne, hdigits⟩
  · exact .inl rfl
  · exact .inr ⟨'*', digits, rfl, rfl, hne, hdigits⟩

end IsOptionalNumber

/-! ## Reading what is put together -/

section Numbers

open Formula (bounded? sumTerms? signedTerms multiplier? markChars BeginsIn)

/-- A number behind a sign is read when its digits are the digits `0` to `9` and it is an amount. -/
theorem exists_read? {sign : Char} {digits : List Char} (hsign : Text.isSign sign = true) (hne : digits ≠ []) :
    (∃ a, Amount.read? (sign :: digits) = some a) ↔
      (∀ c ∈ digits, c.isDigit = true) ∧ Amount.Fits (signedValue (sign :: digits)) := by
  constructor
  · rintro ⟨a, ha⟩
    obtain ⟨⟨negative, number⟩, hchars, hvalue⟩ := Formula.exists_signedNumeral hsign ha
    obtain ⟨rfl, rfl⟩ := List.cons.inj hchars
    have hfits := a.fits
    rw [← hvalue] at hfits
    cases negative <;> exact ⟨number.isDigit, hfits⟩
  · rintro ⟨hdigits, hfits⟩
    rcases Text.isSign_iff.1 hsign with rfl | rfl
    · exact ⟨_, @Amount.read?_chars ⟨false, digits, hne, hdigits⟩ hfits⟩
    · exact ⟨_, @Amount.read?_chars ⟨true, digits, hne, hdigits⟩ hfits⟩

/-- One term is summed up when it is read. -/
theorem exists_sumTerms? {part : List Char} (h : IsOptionalNumber Text.isSign part) :
    (∃ sum, sumTerms? 0 (signedTerms part) = some sum) ↔
      (∀ c ∈ part.tail, c.isDigit = true) ∧ Amount.Fits (signedValue part) := by
  rcases h with rfl | ⟨sign, digits, rfl, hsign, hne, hdigits⟩
  · exact iff_of_true ⟨0, rfl⟩ ⟨nofun, Amount.fits_zero⟩
  · have hterms : signedTerms (sign :: digits) = [sign :: digits] := by
      have happend := @Formula.signedTerms_append digits []
        (fun d hd => Text.isSign_of_isDecimalDigit (hdigits d hd)) (by rintro c ⟨⟩) sign
      rwa [List.append_nil] at happend
    have hsum : sumTerms? 0 [sign :: digits] = Amount.read? (sign :: digits) := by
      rw [sumTerms?]
      cases Amount.read? (sign :: digits) with
      | none => rfl
      | some a =>
        have hzero : (0 : Amount).val + a.val = a.val := Int.zero_add a.val
        rw [Option.bind_some, hzero, Amount.ofInt?_val]
        rfl
    rw [hterms, hsum]
    exact exists_read? hsign hne

/-- The number of a multiplier, if there is one and it can be read. -/
def factor? (part : List Char) : Option (Option Nat) :=
  if part = [] then some none else (bounded? part.tail).map some

theorem multiplier?_starred {part : List Char} (h : IsOptionalNumber Formula.isTimes part)
    (minOne : Bool) :
    multiplier? (starred part ++ markChars minOne) = (factor? part).map fun k => (k, markChars minOne) := by
  rcases h with rfl | ⟨letter, digits, rfl, -, -, hdigits⟩
  · cases minOne <;> rfl
  · have hend := (Formula.beginsIn_mark minOne).class_eq_false (p := Text.isDecimalDigit) (by decide)
    have hstar : Formula.isTimes '*' = true := rfl
    show multiplier? ('*' :: (digits ++ markChars minOne)) = _
    rw [multiplier?, if_pos hstar, Text.takeWhile_run hdigits hend, Text.dropWhile_run hdigits hend,
      factor?, if_neg (List.cons_ne_nil letter digits), Option.map_map]
    rfl

theorem exists_factor? {part : List Char} (h : IsOptionalNumber Formula.isTimes part) :
    (∃ k, factor? part = some k) ↔
      (∀ c ∈ part.tail, c.isDigit = true) ∧ Text.valueOf part.tail ≤ Formula.limit := by
  rcases h with rfl | ⟨letter, digits, rfl, -, hne, -⟩
  · exact iff_of_true ⟨none, rfl⟩ ⟨nofun, Nat.zero_le _⟩
  · rw [factor?, if_neg (List.cons_ne_nil letter digits), List.tail_cons, ← Formula.exists_bounded? hne]
    simp only [Option.map_eq_some_iff]
    exact ⟨fun ⟨_, n, hn, _⟩ => ⟨n, hn⟩, fun ⟨n, hn⟩ => ⟨some n, n, hn, rfl⟩⟩

end Numbers

namespace TypedNumbers

open Formula (bounded? sumTerms? signedTerms markChars readCompact? BeginsIn isPartChar)

variable {n : TypedNumbers} {cs : List Char}

/-- The text of the formula behind the `d`. -/
def behindLetter (n : TypedNumbers) (minOne : Bool) : List Char :=
  n.adds ++ (starred n.multiplier ++ markChars minOne)

theorem Begin.adds (h : n.Begin cs) : IsOptionalNumber Text.isSign n.adds := by
  obtain ⟨_, _, _, -, hadds, -⟩ := h.behind
  exact hadds.isOptionalNumber

theorem Begin.multiplier (h : n.Begin cs) : IsOptionalNumber Formula.isTimes n.multiplier := by
  obtain ⟨_, _, _, -, -, hmultiplier⟩ := h.behind
  exact hmultiplier.isOptionalNumber

theorem Begin.beginsIn_starred (h : n.Begin cs) (minOne : Bool) :
    BeginsIn ['*', '!', ' '] (starred n.multiplier ++ markChars minOne) :=
  h.multiplier.starred.beginsIn ['*'] (fun _ hc => List.mem_singleton.2 (eq_of_beq hc))
    (Formula.beginsIn_mark minOne)

theorem Begin.beginsIn_behindLetter (h : n.Begin cs) (minOne : Bool) :
    BeginsIn ['+', '-', '*', '!', ' '] (n.behindLetter minOne) :=
  h.adds.beginsIn ['+', '-'] (fun c hc => by simpa using Text.isSign_iff.1 hc) (h.beginsIn_starred minOne)

theorem Begin.isPartChar_behindLetter (h : n.Begin cs) (minOne : Bool) :
    ∀ c ∈ n.behindLetter minOne, isPartChar c = true := by
  have hdecimal {c : Char} (hc : Text.isDecimalDigit c = true) : isPartChar c = true := by
    rw [isPartChar, hc, Bool.true_or]
  intro c hc
  simp only [behindLetter, List.mem_append] at hc
  rcases hc with hadds | hmultiplier | hmark
  · rcases h.adds.mem c hadds with hsign | hdigit
    · rcases Text.isSign_iff.1 hsign with rfl | rfl <;> decide
    · exact hdecimal hdigit
  · rcases h.multiplier.starred.mem c hmultiplier with hstar | hdigit
    · rw [eq_of_beq hstar]
      decide
    · exact hdecimal hdigit
  · have hmarks : ∀ minOne, (markChars minOne).all isPartChar = true := by decide
    exact List.all_eq_true.1 (hmarks minOne) c hmark

/-- The parts of the formula are taken apart where they were put together. -/
theorem Begin.readCompact?_eq (h : n.Begin cs) (minOne : Bool) :
    readCompact? (n.count ++ 'd' :: '6' :: n.behindLetter minOne) =
      (bounded? n.count).bind fun count => (sumTerms? 0 (signedTerms n.adds)).bind fun adds =>
        (factor? n.multiplier).map fun k => ⟨count, 6, adds, k, none, minOne⟩ := by
  have hletter : ∀ c ∈ ('d' :: '6' :: n.behindLetter minOne).head?, Text.isDecimalDigit c = false := by
    rintro c ⟨⟩
    decide
  have hendSix := (h.beginsIn_behindLetter minOne).class_eq_false (p := Text.isDecimalDigit) (by decide)
  have hendAdds := (h.beginsIn_starred minOne).class_eq_false
    (p := fun c => Text.isSign c || Text.isDecimalDigit c) (by decide)
  have hsix : ∀ c ∈ ['6'], Text.isDecimalDigit c = true := List.all_eq_true.1 rfl
  have htakeSix := @Text.takeWhile_run _ ['6'] _ hsix hendSix
  have hdropSix := @Text.dropWhile_run _ ['6'] _ hsix hendSix
  have hadds : ∀ c ∈ n.adds, (Text.isSign c || Text.isDecimalDigit c) = true := by
    intro c hc
    rw [Bool.or_eq_true]
    exact h.adds.mem c hc
  have hsides : Formula.sides? ['6'] = some 6 := rfl
  have hdivisor : Formula.divisor? (markChars minOne) = some (none, markChars minOne) :=
    Formula.divisor?_chars none (Formula.beginsIn_mark minOne)
  rw [List.singleton_append] at htakeSix hdropSix
  unfold readCompact?
  simp only [Text.takeWhile_run h.isDecimalDigit hletter, Text.dropWhile_run h.isDecimalDigit hletter,
    htakeSix, hdropSix, hsides, Option.bind_eq_bind, Option.bind_some]
  simp only [behindLetter, Text.takeWhile_run hadds hendAdds, Text.dropWhile_run hadds hendAdds,
    multiplier?_starred h.multiplier]
  cases factor? n.multiplier with
  | none => rfl
  | some k => simp only [Option.map_some, Option.bind_some, hdivisor, Formula.minOne?_markChars]

/-- The six is put in between the `d` and the parts behind it. -/
theorem Begin.read?_withSixes (h : n.Begin cs) (minOne : Bool) :
    Formula.read? (Formula.withSixes (String.ofList (n.formula minOne))) =
      readCompact? (n.count ++ 'd' :: '6' :: n.behindLetter minOne) := by
  have hcount : 'd' ∉ n.count := fun hmem => absurd (h.isDecimalDigit 'd' hmem) (by decide)
  have hparts := h.isPartChar_behindLetter minOne
  have hbehind : 'd' ∉ n.behindLetter minOne := fun hmem => absurd (hparts 'd' hmem) (by decide)
  have hend := (h.beginsIn_behindLetter minOne).class_eq_false (p := Text.isDecimalDigit) (by decide)
  have hbare := Formula.isBare_of_digits h.count_ne_nil h.isDecimalDigit hend
  have hcompactCount := Formula.compact_eq_self fun c hc => Text.isBlank_of_isDecimalDigit (h.isDecimalDigit c hc)
  have hcompactBehind := Formula.compact_eq_self fun c hc => Formula.isBlank_of_isPartChar (hparts c hc)
  have hformula : (String.ofList (n.formula minOne)).toList = n.count ++ 'd' :: n.behindLetter minOne :=
    String.toList_ofList
  rw [Formula.read?_withSixes_of_isBare hformula hcount hbehind hbare, hcompactCount, hcompactBehind]

theorem Begin.exists_readCompact? (h : n.Begin cs) (minOne : Bool) :
    (∃ f, readCompact? (n.count ++ 'd' :: '6' :: n.behindLetter minOne) = some f) ↔
      (∀ c ∈ n.digits, c.isDigit = true) ∧ ¬ n.Beyond := by
  have hparts : (∃ f, readCompact? (n.count ++ 'd' :: '6' :: n.behindLetter minOne) = some f) ↔
      (∃ count, bounded? n.count = some count) ∧ (∃ adds, sumTerms? 0 (signedTerms n.adds) = some adds) ∧
        ∃ k, factor? n.multiplier = some k := by
    simp only [h.readCompact?_eq, Option.bind_eq_some_iff, Option.map_eq_some_iff]
    constructor
    · rintro ⟨f, count, hcount, adds, hadds, k, hk, -⟩
      exact ⟨⟨count, hcount⟩, ⟨adds, hadds⟩, ⟨k, hk⟩⟩
    · rintro ⟨⟨count, hcount⟩, ⟨adds, hadds⟩, ⟨k, hk⟩⟩
      exact ⟨_, count, hcount, adds, hadds, k, hk, rfl⟩
  rw [hparts, Formula.exists_bounded? h.count_ne_nil, exists_sumTerms? h.adds, exists_factor? h.multiplier]
  simp only [digits, List.forall_mem_append, Beyond, not_or, not_not, Nat.not_lt]
  tauto

end TypedNumbers

/-- A text that is parsed to a roll begins with the numbers of that roll, and dispatching it asks for the
roll whatever the character. The roll fails exactly when one of these numbers has a digit of another script
or is beyond its limit. -/
theorem resolve_parsed_roll {text defaultDesc : String} {colored : Bool} {a : Action} {formula desc : String}
    (h : (parse text defaultDesc colored).action = some a) (hkind : a.kind = .roll formula desc) :
    ∃ n : TypedNumbers, n.Begin (Text.skip '!' text.toList) ∧
      ∀ settings actor bucket, ∃ request, dispatch settings actor a bucket = (.ok (.roll request), bucket) ∧
        ∀ bucket' dice e, (resolve request bucket' dice).1 = .error e ↔
          e = .invalidFormula request.formula ∧ ((∃ c ∈ n.digits, c.isDigit = false) ∨ n.Beyond) := by
  obtain ⟨n, minOne, hbegin, rfl⟩ := exists_numbers h hkind
  refine ⟨n, hbegin, fun settings actor bucket => ?_⟩
  obtain ⟨orig, blind, kind⟩ := a
  obtain rfl : kind = _ := hkind
  refine ⟨_, rfl, fun bucket' dice e => ?_⟩
  rw [resolve_fst_eq_error_iff]
  refine and_congr_right fun _ => ?_
  have hread : Formula.read? (Formula.withSixes (String.ofList (n.formula minOne))) = none ↔
      ¬ ((∀ c ∈ n.digits, c.isDigit = true) ∧ ¬ n.Beyond) := by
    rw [hbegin.read?_withSixes, ← hbegin.exists_readCompact? minOne, Option.eq_none_iff_forall_ne_some,
      not_exists]
  refine hread.trans ?_
  rw [not_and_or, not_not]
  simp only [not_forall, Bool.not_eq_true, exists_prop]

/-- A blind roll with adds and a multiplier. -/
theorem resolve_parsed_roll_luck :
    let a : Action := ⟨"!2d+1x3 luck", true, .roll "2d+1*3" "luck"⟩
    (parse "!2d+1x3 luck" "" false).action = some a ∧
      ∃ n : TypedNumbers, n.Begin (Text.skip '!' "!2d+1x3 luck".toList) ∧
        ∀ settings actor bucket, ∃ request, dispatch settings actor a bucket = (.ok (.roll request), bucket) ∧
          ∀ bucket' dice e, (resolve request bucket' dice).1 = .error e ↔
            e = .invalidFormula request.formula ∧ ((∃ c ∈ n.digits, c.isDigit = false) ∨ n.Beyond) := by
  have hparse : (parse "!2d+1x3 luck" "" false).action =
      some ⟨"!2d+1x3 luck", true, .roll "2d+1*3" "luck"⟩ := by
    decide
  exact ⟨hparse, resolve_parsed_roll hparse rfl⟩

/-- Three dice with the three in Arabic digits. -/
theorem resolve_parsed_roll_foreign :
    let a : Action := ⟨"٣d", false, .roll "٣d" ""⟩
    (parse "٣d" "" false).action = some a ∧
      ∃ request, dispatch {} none a .empty = (.ok (.roll request), .empty) ∧
        (resolve request .empty (.ofFaces [1, 2, 3])).1 = .error (.invalidFormula "٣d6") :=
  ⟨by decide, _, rfl, by decide⟩

end Span

end Rollmark
