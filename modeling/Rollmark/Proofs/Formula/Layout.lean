/-
Reading formulas: a formula is laid out part by part, and a text that is laid out within the limits is
read as the formula that its parts describe.

Every part is a run of characters of one class, and it ends where it was laid out to end, because what
may stand behind it begins with characters of other classes. The same holds when a blank follows, so
that the parts of typed dice can be told apart in the same way.
-/
import Rollmark.Formula
import Rollmark.Proofs.Amount
import Rollmark.Proofs.Text.Scan

namespace Rollmark.Formula

open Text (Numeral SignedNumeral)

/-! ## Layouts -/

/-- A multiplier behind its letter. -/
structure Times where
  letter : Char
  isTimes : Formula.isTimes letter = true
  number : Numeral

def Times.chars (k : Times) : List Char := k.letter :: k.number.chars

/-- An armor divisor: points and digits of any script, at least one. -/
structure Divisor where
  inside : List Char
  ne_nil : inside ≠ []
  isDivisorChar : ∀ c ∈ inside, Formula.isDivisorChar c = true

/-- An armor divisor with its parentheses. -/
def Divisor.chars (d : Divisor) : List Char := '(' :: (d.inside ++ [')'])

/-- The mark for totals of at least one, if there is one. -/
def markChars (minOne : Bool) : List Char := if minOne then ['!'] else []

/-- The parts of a formula in their order. -/
structure Layout where
  count : Numeral
  sides : Option Numeral
  terms : List SignedNumeral
  multiplier : Option Times
  divisor : Option Divisor
  minOne : Bool

namespace Layout

/-- The text behind the sides. -/
def behindSides (l : Layout) : List Char :=
  l.terms.flatMap SignedNumeral.chars ++ (l.multiplier.elim [] Times.chars
    ++ (l.divisor.elim [] Divisor.chars ++ markChars l.minOne))

/-- The text of a layout. -/
def chars (l : Layout) : List Char :=
  l.count.chars ++ 'd' :: (l.sides.elim [] Numeral.chars ++ l.behindSides)

/-- The formula that the parts describe. -/
def formula (l : Layout) : Formula :=
  ⟨l.count.value, l.sides.elim 6 Numeral.value, .clamp (l.terms.map SignedNumeral.value).sum,
    l.multiplier.map (·.number.value), l.divisor.map (String.ofList ·.inside), l.minOne⟩

/-- The numbers are within their limits, and so are the terms and their sums from left to right. -/
structure Within (l : Layout) : Prop where
  count : l.count.value ≤ limit
  sides : ∀ sides ∈ l.sides, sides.value ≤ limit
  terms : ∀ term ∈ l.terms, Amount.Fits term.value
  sums : ∀ before, before <+: l.terms.map SignedNumeral.value → Amount.Fits before.sum
  multiplier : ∀ k ∈ l.multiplier, k.number.value ≤ limit

end Layout

/-- What holds of the characters of a part holds of the part when it may be missing. -/
theorem forall_mem_elim {α : Type} {p : Char → Prop} {chars : α → List Char}
    (h : ∀ a, ∀ c ∈ chars a, p c) (part : Option α) : ∀ c ∈ part.elim [] chars, p c := by
  cases part with
  | none => rintro c ⟨⟩
  | some a => exact h a

/-! ## Where parts end -/

/-- A text is empty or begins with one of some characters. -/
def BeginsIn (allowed cs : List Char) : Prop := ∀ c ∈ cs.head?, c ∈ allowed

theorem BeginsIn.class_eq_false {allowed cs : List Char} (h : BeginsIn allowed cs) {p : Char → Bool}
    (hp : allowed.any p = false) : ∀ c ∈ cs.head?, p c = false := by
  intro c hc
  have hnot := List.any_eq_false.1 hp c (h c hc)
  rwa [Bool.not_eq_true] at hnot

theorem beginsIn_markChars (minOne : Bool) {rest : List Char} (h : BeginsIn [' '] rest) :
    BeginsIn ['!', ' '] (markChars minOne ++ rest) := by
  cases minOne with
  | true => rintro c ⟨⟩; decide
  | false => exact fun c hc => List.mem_cons_of_mem _ (h c hc)

theorem beginsIn_mark (minOne : Bool) : BeginsIn ['!', ' '] (markChars minOne) := by
  have hmark := @beginsIn_markChars minOne [] (by rintro c ⟨⟩)
  rwa [List.append_nil] at hmark

theorem beginsIn_divisor (d : Option Divisor) {rest : List Char} (h : BeginsIn ['!', ' '] rest) :
    BeginsIn ['(', '!', ' '] (d.elim [] Divisor.chars ++ rest) := by
  cases d with
  | some d => rintro c ⟨⟩; decide
  | none => exact fun c hc => List.mem_cons_of_mem _ (h c hc)

theorem isTimes_iff {c : Char} : isTimes c = true ↔ c ∈ ['x', 'X', '*'] := by
  simp [isTimes, or_assoc]

theorem beginsIn_multiplier (k : Option Times) {rest : List Char} (h : BeginsIn ['(', '!', ' '] rest) :
    BeginsIn ['x', 'X', '*', '(', '!', ' '] (k.elim [] Times.chars ++ rest) := by
  cases k with
  | some k =>
    rintro c ⟨⟩
    exact List.mem_append_left _ (isTimes_iff.1 k.isTimes)
  | none => exact fun c hc => List.mem_append_right ['x', 'X', '*'] (h c hc)

theorem isSign_sign (n : SignedNumeral) : Text.isSign n.sign = true := by
  unfold SignedNumeral.sign
  split <;> rfl

theorem beginsIn_terms (terms : List SignedNumeral) {rest : List Char}
    (h : BeginsIn ['x', 'X', '*', '(', '!', ' '] rest) :
    BeginsIn ['+', '-', 'x', 'X', '*', '(', '!', ' '] (terms.flatMap SignedNumeral.chars ++ rest) := by
  cases terms with
  | cons term terms =>
    rintro c ⟨⟩
    rcases Text.isSign_iff.1 (isSign_sign term) with hsign | hsign <;> rw [hsign] <;> decide
  | nil => exact fun c hc => List.mem_append_right ['+', '-'] (h c hc)

theorem beginsIn_behindSides (l : Layout) :
    BeginsIn ['+', '-', 'x', 'X', '*', '(', '!', ' '] l.behindSides :=
  beginsIn_terms l.terms (beginsIn_multiplier l.multiplier (beginsIn_divisor l.divisor
    (beginsIn_mark l.minOne)))

/-! ## Signed terms -/

theorem isDecimalDigit_chars (n : Numeral) : ∀ c ∈ n.chars, Text.isDecimalDigit c = true := fun c hc =>
  Text.isDecimalDigit_of_isDigit (n.isDigit c hc)

/-- A term that begins with a sign. -/
def IsTerm (term : List Char) : Prop := ∃ sign ds, term = sign :: ds ∧ Text.isSign sign = true

/-- Nothing is lost between terms, and behind the first one every term begins with a sign. -/
theorem signedTerms_spec (c : Char) (rest : List Char) :
    ∃ ds more, signedTerms (c :: rest) = (c :: ds) :: more ∧ ds ++ more.flatten = rest ∧
      ∀ term ∈ more, IsTerm term := by
  induction rest generalizing c with
  | nil => exact ⟨[], [], rfl, rfl, nofun⟩
  | cons d rest ih =>
    obtain ⟨ds, more, hterms, rfl, hmore⟩ := ih d
    rw [signedTerms, hterms]
    by_cases hd : Text.isSign d = true
    · refine ⟨[], (d :: ds) :: more, if_pos hd, rfl, ?_⟩
      exact List.forall_mem_cons.2 ⟨⟨d, ds, rfl, hd⟩, hmore⟩
    · exact ⟨d :: ds, more, if_neg hd, rfl, hmore⟩

/-- A term goes on up to the next sign. -/
theorem signedTerms_append {ds rest : List Char} (hds : ∀ d ∈ ds, Text.isSign d = false)
    (hrest : ∀ c ∈ rest.head?, Text.isSign c = true) (c : Char) :
    signedTerms (c :: (ds ++ rest)) = (c :: ds) :: signedTerms rest := by
  induction ds generalizing c with
  | nil =>
    cases rest with
    | nil => rfl
    | cons d rest =>
      obtain ⟨ds, more, hterms, -⟩ := signedTerms_spec d rest
      rw [List.nil_append, signedTerms, hterms]
      exact if_pos (hrest d rfl)
  | cons d ds ih =>
    have hmore := ih (fun d' hd' => hds d' (List.mem_cons_of_mem d hd')) d
    have hd : Text.isSign d = false := hds d List.mem_cons_self
    rw [List.cons_append, signedTerms, hmore]
    exact if_neg (by rw [hd]; exact Bool.false_ne_true)

/-- Terms are cut apart where they were joined. -/
theorem signedTerms_flatMap (terms : List SignedNumeral) :
    signedTerms (terms.flatMap SignedNumeral.chars) = terms.map SignedNumeral.chars := by
  induction terms with
  | nil => rfl
  | cons term terms ih =>
    have hdigits : ∀ d ∈ term.number.chars, Text.isSign d = false := fun d hd =>
      Text.isSign_of_isDecimalDigit (isDecimalDigit_chars term.number d hd)
    have hnext : ∀ c ∈ (terms.flatMap SignedNumeral.chars).head?, Text.isSign c = true := by
      cases terms with
      | nil => rintro c ⟨⟩
      | cons next terms => rintro c ⟨⟩; exact isSign_sign next
    rw [List.flatMap_cons, List.map_cons, ← ih]
    exact signedTerms_append hdigits hnext term.sign

theorem sumTerms?_chars {terms : List SignedNumeral} {start : Amount}
    (hterms : ∀ term ∈ terms, Amount.Fits term.value)
    (hsums : ∀ before, before <+: terms.map SignedNumeral.value → Amount.Fits (start.val + before.sum)) :
    sumTerms? start (terms.map SignedNumeral.chars) =
      some (.clamp (start.val + (terms.map SignedNumeral.value).sum)) := by
  induction terms generalizing start with
  | nil =>
    have hstart := hsums [] (List.nil_prefix)
    rw [List.sum_nil, Int.add_zero] at hstart
    show some start = some (.clamp (start.val + 0))
    rw [Int.add_zero, ← hstart.ofInt?_eq, Amount.ofInt?_val]
  | cons term terms ih =>
    have hterm := hterms term List.mem_cons_self
    have hfirst : Amount.Fits (start.val + term.value) := by
      simpa using hsums [term.value] (List.prefix_append [term.value] _)
    have hrest := @ih (.clamp (start.val + term.value))
      (fun t ht => hterms t (List.mem_cons_of_mem term ht)) fun before hbefore => by
        have hlong := hsums (term.value :: before) (List.cons_prefix_cons.2 ⟨rfl, hbefore⟩)
        rwa [List.sum_cons, ← Int.add_assoc, ← hfirst.val_clamp] at hlong
    rw [hfirst.val_clamp] at hrest
    simp only [List.map_cons, sumTerms?, Amount.read?_chars hterm, Option.bind_some, hterm.val_clamp,
      hfirst.ofInt?_eq, hrest, List.sum_cons, Int.add_assoc]

/-! ## Reading the parts -/

theorem bounded?_chars {n : Numeral} (h : n.value ≤ limit) : bounded? n.chars = some n.value := by
  rw [bounded?, n.natural?_chars]
  exact Option.filter_some_pos (decide_eq_true h)

theorem sides?_chars {sides : Option Numeral} (h : ∀ n ∈ sides, n.value ≤ limit) :
    sides? (sides.elim [] Numeral.chars) = some (sides.elim 6 Numeral.value) := by
  cases sides with
  | none => rfl
  | some n =>
    show sides? n.chars = some n.value
    rw [sides?, if_neg (by simpa using n.ne_nil), bounded?_chars (h n rfl)]

theorem multiplier?_chars {k : Option Times} (h : ∀ t ∈ k, t.number.value ≤ limit) {rest : List Char}
    (hrest : BeginsIn ['(', '!', ' '] rest) :
    multiplier? (k.elim [] Times.chars ++ rest) = some (k.map (·.number.value), rest) := by
  cases k with
  | some k =>
    have hdigits := isDecimalDigit_chars k.number
    have hend := hrest.class_eq_false (p := Text.isDecimalDigit) (by decide)
    show multiplier? (k.letter :: (k.number.chars ++ rest)) = some (some k.number.value, rest)
    rw [multiplier?, if_pos k.isTimes, Text.takeWhile_run hdigits hend, Text.dropWhile_run hdigits hend,
      bounded?_chars (h k rfl)]
    rfl
  | none =>
    have hletter := hrest.class_eq_false (p := isTimes) (by decide)
    show multiplier? rest = some (none, rest)
    cases rest with
    | nil => rfl
    | cons c rest => rw [multiplier?, if_neg (by rw [hletter c rfl]; exact Bool.false_ne_true)]

theorem divisor?_chars (d : Option Divisor) {rest : List Char} (hrest : BeginsIn ['!', ' '] rest) :
    divisor? (d.elim [] Divisor.chars ++ rest) = some (d.map (String.ofList ·.inside), rest) := by
  cases d with
  | some d =>
    have hend : ∀ c ∈ (')' :: rest).head?, isDivisorChar c = false := by rintro c ⟨⟩; decide
    have htext : d.chars ++ rest = '(' :: (d.inside ++ ')' :: rest) := by
      simp [Divisor.chars]
    obtain ⟨c, cs, hinside⟩ := List.exists_cons_of_ne_nil d.ne_nil
    show divisor? (d.chars ++ rest) = some (some (String.ofList d.inside), rest)
    rw [htext, divisor?, Text.takeWhile_run d.isDivisorChar hend, Text.dropWhile_run d.isDivisorChar hend,
      hinside]
    rfl
  | none =>
    show divisor? rest = some (none, rest)
    unfold divisor?
    split
    · exact absurd (hrest '(' rfl) (by decide)
    · rfl

theorem minOne?_markChars (minOne : Bool) : minOne? (markChars minOne) = some minOne := by
  cases minOne <;> rfl

/-! ## Reading a layout -/

theorem isTermChar_flatMap (terms : List SignedNumeral) :
    ∀ c ∈ terms.flatMap SignedNumeral.chars, (Text.isSign c || Text.isDecimalDigit c) = true := by
  intro c hc
  obtain ⟨term, -, hterm⟩ := List.mem_flatMap.1 hc
  rcases List.mem_cons.1 hterm with rfl | hdigit
  · rw [isSign_sign, Bool.true_or]
  · rw [isDecimalDigit_chars term.number c hdigit, Bool.or_true]

/-- A layout within the limits is read as the formula that it describes. -/
theorem readCompact?_chars {l : Layout} (h : l.Within) : readCompact? l.chars = some l.formula := by
  have hmark := beginsIn_mark l.minOne
  have hdivisor := beginsIn_divisor l.divisor hmark
  have hmultiplier := beginsIn_multiplier l.multiplier hdivisor
  have hterms := beginsIn_terms l.terms hmultiplier
  -- every part is taken up to the next one
  have hcount := isDecimalDigit_chars l.count
  have hsides := forall_mem_elim isDecimalDigit_chars l.sides
  have hletter : ∀ rest : List Char, ∀ c ∈ ('d' :: rest).head?, Text.isDecimalDigit c = false := by
    rintro rest c ⟨⟩
    decide
  have hendSides := hterms.class_eq_false (p := Text.isDecimalDigit) (by decide)
  have hendTerms := hmultiplier.class_eq_false
    (p := fun c => Text.isSign c || Text.isDecimalDigit c) (by decide)
  have hsum : sumTerms? 0 (signedTerms (l.terms.flatMap SignedNumeral.chars)) =
      some (.clamp (l.terms.map SignedNumeral.value).sum) := by
    have hzero : (0 : Amount).val = 0 := rfl
    have hchars := @sumTerms?_chars l.terms 0 h.terms fun before hbefore => by
      rw [hzero, Int.zero_add]
      exact h.sums before hbefore
    rw [hzero, Int.zero_add] at hchars
    rw [signedTerms_flatMap, hchars]
  unfold readCompact? Layout.chars Layout.behindSides
  simp only [Text.takeWhile_run hcount (hletter _), Text.dropWhile_run hcount (hletter _),
    bounded?_chars h.count, Text.takeWhile_run hsides hendSides, Text.dropWhile_run hsides hendSides,
    sides?_chars h.sides, Text.takeWhile_run (isTermChar_flatMap l.terms) hendTerms,
    Text.dropWhile_run (isTermChar_flatMap l.terms) hendTerms, hsum,
    multiplier?_chars h.multiplier hdivisor, divisor?_chars l.divisor hmark, minOne?_markChars,
    Option.bind_eq_bind, Option.bind_some]
  rfl

/-! ## The characters of a layout -/

/-- The characters behind the sides: digits, signs, letters of a multiplier, an armor divisor and a
mark. -/
def isPartChar (c : Char) : Bool :=
  Text.isDecimalDigit c || ['+', '-', 'x', 'X', '*', '(', ')', '.', '!'].contains c

theorem isPartChar_numeral (n : Numeral) : ∀ c ∈ n.chars, isPartChar c = true := fun c hc => by
  rw [isPartChar, isDecimalDigit_chars n c hc, Bool.true_or]

theorem isPartChar_terms (terms : List SignedNumeral) :
    ∀ c ∈ terms.flatMap SignedNumeral.chars, isPartChar c = true := by
  intro c hc
  have hclass := isTermChar_flatMap terms c hc
  rw [Bool.or_eq_true] at hclass
  rcases hclass with hsign | hdigit
  · rcases Text.isSign_iff.1 hsign with rfl | rfl <;> decide
  · rw [isPartChar, hdigit, Bool.true_or]

theorem isPartChar_times (k : Times) : ∀ c ∈ k.chars, isPartChar c = true := by
  intro c hc
  rcases List.mem_cons.1 hc with rfl | hdigit
  · have hletters : ['x', 'X', '*'].all isPartChar = true := by decide
    exact List.all_eq_true.1 hletters _ (isTimes_iff.1 k.isTimes)
  · exact isPartChar_numeral k.number c hdigit

theorem isPartChar_divisor (d : Divisor) : ∀ c ∈ d.chars, isPartChar c = true := by
  intro c hc
  simp only [Divisor.chars, List.mem_cons, List.mem_append, List.not_mem_nil, or_false] at hc
  rcases hc with rfl | hinside | rfl
  · decide
  · have hclass := d.isDivisorChar c hinside
    rw [isDivisorChar, Bool.or_eq_true, beq_iff_eq] at hclass
    rcases hclass with rfl | hdigit
    · decide
    · rw [isPartChar, hdigit, Bool.true_or]
  · decide

theorem isPartChar_behindSides (l : Layout) : ∀ c ∈ l.behindSides, isPartChar c = true := by
  intro c hc
  simp only [Layout.behindSides, List.mem_append] at hc
  rcases hc with hterms | hmultiplier | hdivisor | hmark
  · exact isPartChar_terms l.terms c hterms
  · exact forall_mem_elim isPartChar_times l.multiplier c hmultiplier
  · exact forall_mem_elim isPartChar_divisor l.divisor c hdivisor
  · have hmarks : ∀ minOne, (markChars minOne).all isPartChar = true := by decide
    exact List.all_eq_true.1 (hmarks l.minOne) c hmark

/-- There is no blank among these characters. -/
theorem isBlank_of_isPartChar {c : Char} (h : isPartChar c = true) : Text.isBlank c = false := by
  rw [isPartChar, Bool.or_eq_true, List.contains_iff_mem] at h
  have hothers : ['+', '-', 'x', 'X', '*', '(', ')', '.', '!'].any Text.isBlank = false := by decide
  rcases h with hdigit | hother
  · exact Text.isBlank_of_isDecimalDigit hdigit
  · have hblank := List.any_eq_false.1 hothers c hother
    rwa [Bool.not_eq_true] at hblank

theorem isBlank_chars (l : Layout) : ∀ c ∈ l.chars, Text.isBlank c = false := by
  have hnumeral : ∀ n : Numeral, ∀ c ∈ n.chars, Text.isBlank c = false := fun n c hc =>
    isBlank_of_isPartChar (isPartChar_numeral n c hc)
  intro c hc
  simp only [Layout.chars, List.mem_append, List.mem_cons] at hc
  rcases hc with hcount | rfl | hsides | hrest
  · exact hnumeral l.count c hcount
  · decide
  · exact forall_mem_elim hnumeral l.sides c hsides
  · exact isBlank_of_isPartChar (isPartChar_behindSides l c hrest)

/-- The text of a layout within the limits is read as the formula that it describes. -/
theorem read?_chars {l : Layout} (h : l.Within) : read? (String.ofList l.chars) = some l.formula := by
  have hcompact : l.chars.filter (fun c => !Text.isBlank c) = l.chars :=
    List.filter_eq_self.2 fun c hc => by rw [isBlank_chars l c hc]; rfl
  rw [read?, String.toList_ofList, hcompact, readCompact?_chars h]

/-! ## The `d` of a layout -/

namespace Layout

variable {l : Layout}

/-- The text behind the `d`. -/
def behindLetter (l : Layout) : List Char := l.sides.elim [] Numeral.chars ++ l.behindSides

theorem notMem_count (l : Layout) : 'd' ∉ l.count.chars := fun h =>
  absurd (isDecimalDigit_chars l.count 'd' h) (by decide)

theorem notMem_behindLetter (l : Layout) : 'd' ∉ l.behindLetter := by
  intro h
  rcases List.mem_append.1 h with hsides | hrest
  · exact absurd (forall_mem_elim isPartChar_numeral l.sides 'd' hsides) (by decide)
  · exact absurd (isPartChar_behindSides l 'd' hrest) (by decide)

theorem count_chars (l : Layout) : l.chars.count 'd' = 1 := by
  have hchars : l.chars = l.count.chars ++ 'd' :: l.behindLetter := rfl
  rw [hchars, List.count_append, List.count_cons_self, List.count_eq_zero.2 l.notMem_count,
    List.count_eq_zero.2 l.notMem_behindLetter]

/-- The `d` takes a layout apart. -/
theorem eq_of_chars {ds tail : List Char} (h : l.chars = ds ++ 'd' :: tail) (hds : 'd' ∉ ds) :
    l.count.chars = ds ∧ l.behindLetter = tail := by
  obtain ⟨between, rfl, hbetween⟩ := Text.append_eq_append_cons l.notMem_count h
  cases between with
  | nil => exact ⟨(List.append_nil _).symm, (List.cons.inj hbetween).2⟩
  | cons c between =>
    obtain ⟨rfl, -⟩ := List.cons.inj hbetween
    exact absurd (List.mem_append_right _ List.mem_cons_self) hds

/-- Whether sides stand behind the `d`. -/
theorem head?_behindLetter (l : Layout) :
    l.behindLetter.head?.any Text.isDecimalDigit = l.sides.isSome := by
  obtain ⟨count, sides, terms, multiplier, divisor, minOne⟩ := l
  cases sides with
  | none =>
    have hend := (beginsIn_behindSides ⟨count, none, terms, multiplier, divisor, minOne⟩).class_eq_false
      (p := Text.isDecimalDigit) (by decide)
    exact (Option.any_eq_false _ _).2 hend
  | some n =>
    obtain ⟨d, ds, hchars⟩ := List.exists_cons_of_ne_nil n.ne_nil
    show (n.chars ++ _).head?.any _ = true
    rw [hchars]
    exact isDecimalDigit_chars n d (hchars ▸ List.mem_cons_self)

theorem takeWhile_behindLetter (l : Layout) :
    l.behindLetter.takeWhile Text.isDecimalDigit = l.sides.elim [] Numeral.chars :=
  Text.takeWhile_run (forall_mem_elim isDecimalDigit_chars l.sides)
    ((beginsIn_behindSides l).class_eq_false (by decide))

end Layout

end Rollmark.Formula
