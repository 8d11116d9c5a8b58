/-
Caps: the target of a check ends at the least cap of its modifiers, or where the modifiers move it when
that is lower. Only the first cap in a description counts. It ends with the first character that is no
decimal digit of any script, and caps nothing unless it is written in the digits `0` to `9` and within the
limits.
-/
import Rollmark.Proofs.Amount
import Rollmark.Proofs.Report

namespace Rollmark

/-! ## Caps in descriptions -/

namespace Directive

/-- A cap with these digits stands in front of a text: `*Max:`, at most one space and a run of digits that
ends where the digits end. -/
def CapAt (digits place : List Char) : Prop :=
  ∃ blank rest, (blank = [] ∨ blank = [' ']) ∧ place = "*Max:".toList ++ (blank ++ (digits ++ rest)) ∧
    digits ≠ [] ∧ (∀ c ∈ digits, Text.isDecimalDigit c = true) ∧
    ∀ c ∈ rest.head?, Text.isDecimalDigit c = false

/-- The first cap in a description has these digits. -/
def FirstCap (digits desc : List Char) : Prop :=
  ∃ before place, desc = before ++ place ∧ CapAt digits place ∧
    ∀ n < before.length, ∀ other, ¬ CapAt other (desc.drop n)

theorem maxDigits?_eq_some {cs digits : List Char} : maxDigits? cs = some digits ↔ CapAt digits cs := by
  simp only [maxDigits?, Option.bind_eq_bind, Option.bind_eq_some_iff, Prod.exists]
  constructor
  · rintro ⟨behind, hword, run, rest, hrun, hdigits⟩
    cases hdigits
    rw [Text.dropLead?_eq_some.1 hword]
    obtain ⟨hbehind, hne, hall, hrest⟩ := Text.digitRun?_eq_some.1 hrun
    cases behind with
    | nil => cases hrun
    | cons c behind =>
      by_cases hc : c = ' '
      · rw [Text.skip, if_pos hc] at hbehind
        exact ⟨[' '], rest, .inr rfl, by rw [hc, hbehind]; rfl, hne, hall, hrest⟩
      · rw [Text.skip, if_neg hc] at hbehind
        exact ⟨[], rest, .inl rfl, by rw [hbehind]; rfl, hne, hall, hrest⟩
  · rintro ⟨blank, rest, hblank, rfl, hne, hall, hrest⟩
    refine ⟨_, Text.dropLead?_append _ _, digits, rest, ?_, rfl⟩
    have hskip : Text.skip ' ' (blank ++ (digits ++ rest)) = digits ++ rest := by
      rcases hblank with rfl | rfl
      · -- a digit is no space
        obtain ⟨d, ds, rfl⟩ := List.exists_cons_of_ne_nil hne
        have hd : d ≠ ' ' := by
          rintro rfl
          exact absurd (hall ' ' List.mem_cons_self) (by decide)
        exact if_neg hd
      · rfl
    rw [hskip, Text.digitRun?_eq_some]
    exact ⟨rfl, hne, hall, hrest⟩

theorem firstFound_maxDigits?_eq_some {desc digits : List Char} :
    Text.firstFound maxDigits? desc = some digits ↔ FirstCap digits desc := by
  simp only [Text.firstFound_eq_some, maxDigits?_eq_some, Option.eq_none_iff_forall_ne_some, ne_eq, FirstCap]

/-- A description sets a cap when the digits of its first cap are an amount. -/
theorem maxTarget_eq_some {desc : String} {cap : Amount} :
    (ofDesc desc).maxTarget = some cap ↔ ∃ digits, FirstCap digits desc.toList ∧
      (∀ c ∈ digits, c.isDigit = true) ∧ (Text.valueOf digits : Int) = cap.val := by
  have hread {digits : List Char} (hfirst : FirstCap digits desc.toList) :
      Amount.read? digits = some cap ↔
        (∀ c ∈ digits, c.isDigit = true) ∧ (Text.valueOf digits : Int) = cap.val := by
    obtain ⟨-, -, -, ⟨-, -, -, -, hne, hall, -⟩, -⟩ := hfirst
    rw [Amount.read?_eq_some, and_iff_right hne]
    intro c hc
    have hdigit := hall c (List.mem_of_mem_head? hc)
    constructor <;> rintro rfl <;> exact absurd hdigit (by decide)
  simp only [ofDesc, Option.bind_eq_some_iff, firstFound_maxDigits?_eq_some]
  exact exists_congr fun digits => and_congr_right hread

end Directive

/-- The first cap in the description of a modifier is this amount. -/
def Modifier.Caps (m : Modifier) (cap : Amount) : Prop :=
  ∃ digits, Directive.FirstCap digits m.desc.toList ∧
    (∀ c ∈ digits, c.isDigit = true) ∧ (Text.valueOf digits : Int) = cap.val

theorem Modifier.maxTarget_eq_some {m : Modifier} {cap : Amount} :
    m.directive.maxTarget = some cap ↔ m.Caps cap :=
  Directive.maxTarget_eq_some

/-! ## The least cap -/

section Final

variable {modifiers : List Modifier}

theorem cap?_eq_none (h : cap? modifiers = none) : ∀ m ∈ modifiers, ∀ cap, ¬ m.Caps cap := by
  intro m hm cap hcap
  have hnone := List.filterMap_eq_nil_iff.1 (List.min?_eq_none_iff.1 h) m hm
  rw [Modifier.maxTarget_eq_some.2 hcap] at hnone
  cases hnone

theorem cap?_eq_some {least : Amount} (h : cap? modifiers = some least) :
    (∃ m ∈ modifiers, m.Caps least) ∧ ∀ m ∈ modifiers, ∀ cap, m.Caps cap → least ≤ cap := by
  simpa only [cap?_eq_some_iff, Modifier.maxTarget_eq_some] using h

/-- The final target is the least of the moved target and the caps. -/
theorem finalTarget_least (target : Amount) (modifiers : List Modifier) :
    let moved := target + Modifier.total modifiers
    let final := finalTarget target modifiers
    (∀ m ∈ modifiers, ∀ cap, m.Caps cap → final ≤ cap) ∧ final ≤ moved ∧
      (final = moved ∨ ∃ m ∈ modifiers, m.Caps final) := by
  intro moved final
  cases hcap : cap? modifiers with
  | none =>
    have hfinal : final = moved := by
      show finalTarget target modifiers = _
      rw [finalTarget, hcap]
    exact ⟨fun m hm cap h => absurd h (cap?_eq_none hcap m hm cap), hfinal.le, .inl hfinal⟩
  | some least =>
    obtain ⟨hmem, hle⟩ := cap?_eq_some hcap
    have hfinal : final = min moved least := by
      show finalTarget target modifiers = _
      rw [finalTarget, hcap]
    rw [hfinal]
    refine ⟨fun m hm cap h => (min_le_right moved least).trans (hle m hm cap h), min_le_left moved least, ?_⟩
    rcases min_choice moved least with hmin | hmin <;> rw [hmin]
    · exact .inl rfl
    · exact .inr hmem

end Final

/-- The target in the report of a check is at most the first cap of every modifier that counts, and no
lower than one of these caps unless the modifiers move it there. -/
theorem resolve_target_caps {request : RollRequest} {bucket bucket' : Bucket} {dice dice' : Dice}
    {report : Report} {target : Amount} (htarget : request.target = some target) (hpos : 0 < target)
    (h : resolve request bucket dice = (.ok report, bucket', dice')) :
    let modifiers := request.oneShot ++ bucket.entries
    let moved := target + Modifier.total modifiers
    ∃ final, report.outcome.target = some final ∧
      (∀ m ∈ modifiers, ∀ cap, m.Caps cap → final ≤ cap) ∧ final ≤ moved ∧
      (final = moved ∨ ∃ m ∈ modifiers, m.Caps final) := by
  obtain ⟨formula, -, -, hrolled⟩ := resolve_ok h
  rw [request.rolled_of_pos formula _ dice htarget hpos] at hrolled
  cases hrolled
  exact ⟨_, rfl, finalTarget_least target _⟩

/-- A bonus of four and a cap of nine on a target of twelve. -/
theorem resolve_target_caps_charge :
    let charge : Modifier := ⟨4, "to hit (Charge Attack) *Max: 9 or *Max:7"⟩
    charge.Caps 9 ∧ ∃ report bucket dice,
      resolve (.check 12 "Broadsword") (.ofEntries [charge]) (.ofFaces [3, 3, 4]) = (.ok report, bucket, dice) ∧
      ∃ final, report.outcome.target = some final ∧
        (∀ m ∈ [charge], ∀ cap, m.Caps cap → final ≤ cap) ∧ final ≤ 12 + 4 ∧
        (final = 12 + 4 ∨ ∃ m ∈ [charge], m.Caps final) := by
  refine ⟨Modifier.maxTarget_eq_some.1 (by decide), ?_⟩
  have hreport : ∃ report bucket dice, resolve (.check 12 "Broadsword")
      (.ofEntries [⟨4, "to hit (Charge Attack) *Max: 9 or *Max:7"⟩]) (.ofFaces [3, 3, 4]) =
        (.ok report, bucket, dice) := ⟨_, _, _, rfl⟩
  obtain ⟨report, bucket, dice, hreport⟩ := hreport
  exact ⟨report, bucket, dice, hreport, resolve_target_caps rfl (by decide) hreport⟩

/-- A second cap in a description counts for nothing. -/
theorem resolve_target_second_cap :
    let twice : Modifier := ⟨0, "*Max:12 *Max:9"⟩
    Directive.CapAt ['9'] (twice.desc.toList.drop 8) ∧
      ∃ report, (resolve (.check 20 "Broadsword") (.ofEntries [twice]) (.ofFaces [3, 3, 4])).1 = .ok report ∧
        report.outcome.target = some 12 :=
  ⟨Directive.maxDigits?_eq_some.1 (by decide), _, rfl, rfl⟩

end Rollmark
