/-
Typed directives: of each kind the first one in a description is found, wherever it stands. A description is a
row of parts, the typed costs and caps and the texts without a star around them, and a part of one kind does
not hide what the parts behind it ask for in the other.

Both searches pass over every place where no star stands. At the star of a directive of the other kind they
find nothing either, and there is no second star in it.
-/
import Rollmark.Modifier.Directive
import Rollmark.Proofs.Amount
import Rollmark.Proofs.Text.Scan

namespace Rollmark.Directive

/-! ## Parts of a description -/

/-- A character that may be typed or left out. -/
def optional (c : Char) (typed : Bool) : List Char := if typed then [c] else []

/-- A cost as it is typed: `*Cost 1FP`, `* Costs 2 FP`. -/
structure TypedCost where
  points : Amount
  /-- Whether a space stands behind the star. -/
  spaced : Bool
  /-- Whether it is `Costs`. -/
  plural : Bool
  /-- Whether a space stands in front of `FP`. -/
  apart : Bool
  nonneg : 0 ≤ points

namespace TypedCost

variable (c : TypedCost)

def unit : List Char := optional ' ' c.apart ++ ['F', 'P']

def behindStar : List Char :=
  optional ' ' c.spaced ++ ("Cost".toList ++ (optional 's' c.plural ++ ' ' :: (c.points.digits ++ c.unit)))

def chars : List Char := '*' :: c.behindStar

end TypedCost

/-- A cap as it is typed: `*Max:9`, `*Max: 12`. -/
structure TypedCap where
  limit : Amount
  /-- Whether a space stands in front of the number. -/
  spaced : Bool
  nonneg : 0 ≤ limit

namespace TypedCap

variable (c : TypedCap)

def behindStar : List Char := "Max:".toList ++ (optional ' ' c.spaced ++ c.limit.digits)

def chars : List Char := '*' :: c.behindStar

end TypedCap

/-- A part of a description. -/
inductive Part where
  | plain (text : List Char) (starless : '*' ∉ text)
  | cost (c : TypedCost)
  | cap (c : TypedCap)

namespace Part

def chars : Part → List Char
  | plain text _ => text
  | cost c => c.chars
  | cap c => c.chars

def cost? : Part → Option Amount
  | cost c => some c.points
  | _ => none

def cap? : Part → Option Amount
  | cap c => some c.limit
  | _ => none

/-- What follows a cap does not continue its digits. -/
def IsClosed (rest : List Char) : Part → Prop
  | cap _ => ∀ c ∈ rest.head?, Text.isDecimalDigit c = false
  | _ => True

end Part

/-- The description that is made of some parts. -/
def written (parts : List Part) : List Char := parts.flatMap Part.chars

theorem written_cons_append (part : Part) (parts : List Part) (rest : List Char) :
    written (part :: parts) ++ rest = part.chars ++ (written parts ++ rest) := by
  rw [written, List.flatMap_cons, List.append_assoc]
  rfl

/-- No cap in a description is continued by what follows it. -/
def Closed : List Part → List Char → Prop
  | [], _ => True
  | part :: parts, rest => part.IsClosed (written parts ++ rest) ∧ Closed parts rest

/-! ## Where a directive begins -/

theorem skip_optional {c : Char} {cs : List Char} (h : cs.head? ≠ some c) (typed : Bool) :
    Text.skip c (optional c typed ++ cs) = cs := by
  cases typed with
  | true => exact if_pos rfl
  | false => exact Text.skip_eq_self h

theorem notMem_optional {c d : Char} (h : c ≠ d) (typed : Bool) : c ∉ optional d typed := by
  cases typed <;> simp [optional, h]

theorem star_notMem_digits {a : Amount} (h : 0 ≤ a) : '*' ∉ a.digits := by
  rw [Amount.digits_of_nonneg h]
  intro hmem
  exact absurd (Text.isDigit_of_mem_digits hmem) (by decide)

theorem head?_digits_ne {a : Amount} (h : 0 ≤ a) (rest : List Char) : (a.digits ++ rest).head? ≠ some ' ' := by
  rw [Amount.digits_of_nonneg h]
  intro hhead
  exact absurd (Text.isDigit_of_mem_head? hhead) (by decide)

theorem digitRun?_amount {a : Amount} (h : 0 ≤ a) {rest : List Char}
    (hrest : ∀ c ∈ rest.head?, Text.isDecimalDigit c = false) :
    Text.digitRun? (a.digits ++ rest) = some (a.digits, rest) := by
  rw [Amount.digits_of_nonneg h]
  exact Text.digitRun?_digits _ hrest

theorem costDigits?_of_ne {c : Char} (h : c ≠ '*') (cs : List Char) : costDigits? (c :: cs) = none := by
  simp [costDigits?, Text.dropLead?, Ne.symm h]

theorem maxDigits?_of_ne {c : Char} (h : c ≠ '*') (cs : List Char) : maxDigits? (c :: cs) = none := by
  simp [maxDigits?, Text.dropLead?, Ne.symm h]

section Search

variable {rule : List Char → Option (List Char)} (hrule : ∀ c ≠ '*', ∀ cs, rule (c :: cs) = none)
include hrule

/-- A search that stops at stars alone passes over a text without a star. -/
theorem firstFound_starless {text : List Char} (h : '*' ∉ text) (rest : List Char) :
    Text.firstFound rule (text ++ rest) = Text.firstFound rule rest := by
  induction text with
  | nil => rfl
  | cons c text ih =>
    rw [List.mem_cons, not_or] at h
    rw [List.cons_append, Text.firstFound, hrule c (Ne.symm h.1)]
    exact ih h.2

/-- It passes over a star where it finds nothing, too. -/
theorem firstFound_star {text : List Char} (h : '*' ∉ text) {rest : List Char}
    (hnone : rule ('*' :: text ++ rest) = none) :
    Text.firstFound rule ('*' :: text ++ rest) = Text.firstFound rule rest := by
  rw [List.cons_append] at hnone ⊢
  rw [Text.firstFound, hnone]
  exact firstFound_starless hrule h rest

end Search

namespace TypedCost

variable (c : TypedCost)

theorem unit_closed (rest : List Char) : ∀ d ∈ (c.unit ++ rest).head?, Text.isDecimalDigit d = false := by
  unfold unit
  cases c.apart <;> rintro d ⟨⟩ <;> decide

theorem costDigits?_chars (rest : List Char) : costDigits? (c.chars ++ rest) = some c.points.digits := by
  have hchars : c.chars ++ rest = ['*'] ++ (optional ' ' c.spaced ++ ("Cost".toList ++
      (optional 's' c.plural ++ ' ' :: (c.points.digits ++ (c.unit ++ rest))))) := by
    simp [chars, behindStar]
  have hword (cs : List Char) : Text.skip ' ' (optional ' ' c.spaced ++ ("Cost".toList ++ cs)) =
      "Cost".toList ++ cs := skip_optional (by rintro ⟨⟩) _
  have hletter (cs : List Char) : Text.skip 's' (optional 's' c.plural ++ ' ' :: cs) = ' ' :: cs :=
    skip_optional (by rintro ⟨⟩) _
  have hspace (cs : List Char) : Text.dropLead? [' '] (' ' :: cs) = some cs := rfl
  have hunit : Text.dropLead? "FP".toList (Text.skip ' ' (c.unit ++ rest)) = some rest := by
    rw [unit, List.append_assoc, skip_optional (by rintro ⟨⟩)]
    rfl
  simp only [costDigits?, hchars, Text.dropLead?_append, Option.bind_eq_bind, Option.bind_some, hword, hletter,
    hspace, digitRun?_amount c.nonneg (c.unit_closed rest), hunit]

theorem star_notMem_behindStar : '*' ∉ c.behindStar := by
  simp [behindStar, unit, notMem_optional, star_notMem_digits c.nonneg]

theorem maxDigits?_chars (rest : List Char) : maxDigits? (c.chars ++ rest) = none := by
  unfold chars behindStar
  cases c.spaced <;> rfl

end TypedCost

namespace TypedCap

variable (c : TypedCap)

theorem maxDigits?_chars {rest : List Char} (hrest : ∀ d ∈ rest.head?, Text.isDecimalDigit d = false) :
    maxDigits? (c.chars ++ rest) = some c.limit.digits := by
  have hchars : c.chars ++ rest = "*Max:".toList ++ (optional ' ' c.spaced ++ (c.limit.digits ++ rest)) := by
    simp [chars, behindStar]
  simp only [maxDigits?, hchars, Text.dropLead?_append, Option.bind_eq_bind, Option.bind_some,
    skip_optional (head?_digits_ne c.nonneg rest), digitRun?_amount c.nonneg hrest]

theorem star_notMem_behindStar : '*' ∉ c.behindStar := by
  simp [behindStar, notMem_optional, star_notMem_digits c.nonneg]

theorem costDigits?_chars (rest : List Char) : costDigits? (c.chars ++ rest) = none := rfl

end TypedCap

/-! ## One part -/

theorem read?_amount {a : Amount} (h : 0 ≤ a) : Amount.read? a.digits = some a := by
  rw [Amount.digits_of_nonneg h]
  exact Amount.read?_digits h

theorem ofDesc_ofList (cs : List Char) :
    ofDesc (String.ofList cs) =
      ⟨(Text.firstFound costDigits? cs).bind Amount.read?, (Text.firstFound maxDigits? cs).bind Amount.read?⟩ := by
  rw [ofDesc, String.toList_ofList]

theorem fatigueCost_part (part : Part) (rest : List Char) :
    (ofDesc (String.ofList (part.chars ++ rest))).fatigueCost =
      part.cost?.or (ofDesc (String.ofList rest)).fatigueCost := by
  simp only [ofDesc_ofList]
  cases part with
  | plain text starless =>
    exact congrArg (·.bind Amount.read?) (firstFound_starless (fun _ => costDigits?_of_ne) starless rest)
  | cost c =>
    rw [Part.chars, Text.firstFound_of_some (c.costDigits?_chars rest)]
    exact read?_amount c.nonneg
  | cap c =>
    exact congrArg (·.bind Amount.read?)
      (firstFound_star (fun _ => costDigits?_of_ne) c.star_notMem_behindStar (c.costDigits?_chars rest))

theorem maxTarget_part {part : Part} {rest : List Char} (h : part.IsClosed rest) :
    (ofDesc (String.ofList (part.chars ++ rest))).maxTarget =
      part.cap?.or (ofDesc (String.ofList rest)).maxTarget := by
  simp only [ofDesc_ofList]
  cases part with
  | plain text starless =>
    exact congrArg (·.bind Amount.read?) (firstFound_starless (fun _ => maxDigits?_of_ne) starless rest)
  | cost c =>
    exact congrArg (·.bind Amount.read?)
      (firstFound_star (fun _ => maxDigits?_of_ne) c.star_notMem_behindStar (c.maxDigits?_chars rest))
  | cap c =>
    rw [Part.chars, Text.firstFound_of_some (c.maxDigits?_chars h)]
    exact read?_amount c.nonneg

/-! ## All parts -/

/-- The first cost of a description is charged. -/
theorem fatigueCost_written (parts : List Part) (rest : List Char) :
    (ofDesc (String.ofList (written parts ++ rest))).fatigueCost =
      (parts.findSome? Part.cost?).or (ofDesc (String.ofList rest)).fatigueCost := by
  induction parts with
  | nil => rfl
  | cons part parts ih =>
    rw [written_cons_append, fatigueCost_part, ih, List.findSome?_cons]
    cases part.cost? <;> rfl

/-- The first cap of a description counts. -/
theorem maxTarget_written {parts : List Part} {rest : List Char} (h : Closed parts rest) :
    (ofDesc (String.ofList (written parts ++ rest))).maxTarget =
      (parts.findSome? Part.cap?).or (ofDesc (String.ofList rest)).maxTarget := by
  induction parts with
  | nil => rfl
  | cons part parts ih =>
    rw [written_cons_append, maxTarget_part h.1, ih h.2, List.findSome?_cons]
    cases part.cap? <;> rfl

theorem ofDesc_written {parts : List Part} {rest : List Char} (h : Closed parts rest) :
    ofDesc (String.ofList (written parts ++ rest)) =
      ⟨(parts.findSome? Part.cost?).or (ofDesc (String.ofList rest)).fatigueCost,
        (parts.findSome? Part.cap?).or (ofDesc (String.ofList rest)).maxTarget⟩ := by
  rw [← fatigueCost_written, ← maxTarget_written h]

/-- A cost and a cap are found behind any text without a star, and both of them in either order with any such
text between them, as long as the digits of the cap end where they are typed to end. Without a star there is
nothing to find. -/
theorem ofDesc_typed {before : List Char} (hbefore : '*' ∉ before) (cost : TypedCost) (cap : TypedCap)
    (after : List Char) :
    (ofDesc (String.ofList (before ++ (cost.chars ++ after)))).fatigueCost = some cost.points ∧
      ((∀ c ∈ after.head?, Text.isDecimalDigit c = false) →
        (ofDesc (String.ofList (before ++ (cap.chars ++ after)))).maxTarget = some cap.limit) ∧
      (∀ between, '*' ∉ between →
        ((∀ c ∈ after.head?, Text.isDecimalDigit c = false) →
          ofDesc (String.ofList (before ++ (cost.chars ++ (between ++ (cap.chars ++ after))))) =
            ⟨some cost.points, some cap.limit⟩) ∧
        ((∀ c ∈ between.head?, Text.isDecimalDigit c = false) →
          ofDesc (String.ofList (before ++ (cap.chars ++ (between ++ (cost.chars ++ after))))) =
            ⟨some cost.points, some cap.limit⟩)) ∧
      ofDesc (String.ofList before) = ⟨none, none⟩ := by
  let first := Part.plain before hbefore
  refine ⟨?_, fun hafter => ?_, fun between hbetween => ⟨fun hafter => ?_, fun hclosed => ?_⟩, ?_⟩
  · have hwritten : written [first, .cost cost] ++ after = before ++ (cost.chars ++ after) := by
      simp [written, first, Part.chars]
    rw [← hwritten]
    exact fatigueCost_written _ after
  · have hwritten : written [first, .cap cap] ++ after = before ++ (cap.chars ++ after) := by
      simp [written, first, Part.chars]
    rw [← hwritten]
    exact maxTarget_written ⟨trivial, hafter, trivial⟩
  · let second := Part.plain between hbetween
    have hwritten : written [first, .cost cost, second, .cap cap] ++ after =
        before ++ (cost.chars ++ (between ++ (cap.chars ++ after))) := by
      simp [written, first, second, Part.chars]
    rw [← hwritten]
    exact ofDesc_written ⟨trivial, trivial, trivial, hafter, trivial⟩
  · let second := Part.plain between hbetween
    have hwritten : written [first, .cap cap, second, .cost cost] ++ after =
        before ++ (cap.chars ++ (between ++ (cost.chars ++ after))) := by
      simp [written, first, second, Part.chars]
    have hstar : written [second, .cost cost] ++ after = between ++ '*' :: (cost.behindStar ++ after) := by
      simp [written, second, Part.chars, TypedCost.chars]
    have hnext : ∀ c ∈ (written [second, .cost cost] ++ after).head?, Text.isDecimalDigit c = false := by
      rw [hstar]
      cases between with
      | nil => rintro c ⟨⟩; decide
      | cons d between => exact hclosed
    rw [← hwritten]
    exact ofDesc_written ⟨trivial, hnext, trivial, trivial, trivial⟩
  · have hwritten : written [first] ++ [] = before := by
      simp [written, first, Part.chars]
    rw [← hwritten]
    exact ofDesc_written ⟨trivial, trivial⟩

/-- A cap that costs two points of fatigue, too. -/
theorem ofDesc_typed_blow :
    ofDesc "(Mighty Blow) *Max: 9 for * Costs 2 FP" = ⟨some 2, some 9⟩ := by
  have hcost : (⟨2, true, true, true, by decide⟩ : TypedCost).chars = "* Costs 2 FP".toList := by
    show '*' :: ' ' :: ("Costs ".toList ++ (Text.digits 2 ++ " FP".toList)) = _
    rw [Text.digits_of_lt (by decide)]
    rfl
  have hcap : (⟨9, true, by decide⟩ : TypedCap).chars = "*Max: 9".toList := by
    show '*' :: ("Max: ".toList ++ Text.digits 9) = _
    rw [Text.digits_of_lt (by decide)]
    rfl
  have hblow := @ofDesc_typed "(Mighty Blow) ".toList (by decide) ⟨2, true, true, true, by decide⟩
    ⟨9, true, by decide⟩ []
  rw [hcost, hcap] at hblow
  exact (hblow.2.2.1 " for ".toList (by decide)).2 (by rintro c ⟨⟩; decide)

end Rollmark.Directive
