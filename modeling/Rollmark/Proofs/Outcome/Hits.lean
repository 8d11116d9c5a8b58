/-
Hits of rapid fire: what is reported is the greatest number of hits that the margin pays for and the rate
of fire allows, when that is more than one.

The first hit is free and every further one costs the recoil, so a number of hits is paid for when it is at
most one more than the quotient of the margin and the recoil. A greater margin pays for whatever a smaller
one pays for, and so the number of hits never goes down.
-/
import Mathlib.Order.Bounds.Defs
import Rollmark.Outcome
import Rollmark.Proofs.Amount

namespace Rollmark

/-- A number of hits that a margin pays for: every hit behind the first one costs the recoil. No more hits
than shots are possible; a rate of fire that is not positive is none. -/
structure Affordable (margin recoil : Amount) (rof : Option Amount) (hits : Amount) : Prop where
  paid : (hits.val - 1) * recoil.val ≤ margin.val
  shot : ∀ rate ∈ rof, 0 < rate → hits ≤ rate

/-- The hits that are counted for a recoil, before it is asked whether there is more than one. -/
def hitCount (margin recoil : Amount) (rof : Option Amount) : Amount :=
  let steps := Amount.clamp (margin.val / recoil.val) + 1
  match rof with
  | some rate => if 0 < rate then min steps rate else steps
  | none => steps

section Hits

variable {margin margin' recoil hits : Amount} {rcl rof : Option Amount}

/-! ## The count -/

/-- One more than a quotient of amounts stops at the greatest amount. -/
theorem le_steps_iff (hmargin : 0 < margin) (hrecoil : 0 < recoil) :
    hits ≤ Amount.clamp (margin.val / recoil.val) + 1 ↔ hits.val ≤ margin.val / recoil.val + 1 := by
  have hpositive : 0 < margin.val := hmargin
  have hlower : 0 ≤ margin.val / recoil.val := Int.ediv_nonneg hpositive.le hrecoil.le
  have hupper : margin.val / recoil.val ≤ margin.val := Int.ediv_le_self _ hpositive.le
  have hmost := margin.upper
  have hhits := hits.upper
  have hquotient : (Amount.clamp (margin.val / recoil.val)).val = margin.val / recoil.val :=
    Amount.val_clamp (by omega) (by omega)
  show hits.val ≤ max (-2147483648) (min ((Amount.clamp (margin.val / recoil.val)).val + 1) 2147483647) ↔ _
  rw [hquotient]
  omega

/-- What is counted bounds exactly the numbers of hits that are paid for. -/
theorem affordable_iff (hmargin : 0 < margin) (hrecoil : 0 < recoil) :
    Affordable margin recoil rof hits ↔ hits ≤ hitCount margin recoil rof := by
  have hpaid : (hits.val - 1) * recoil.val ≤ margin.val ↔
      hits ≤ Amount.clamp (margin.val / recoil.val) + 1 := by
    rw [le_steps_iff hmargin hrecoil, ← Int.le_ediv_iff_mul_le hrecoil]
    omega
  have hcount : hits ≤ hitCount margin recoil rof ↔
      hits ≤ Amount.clamp (margin.val / recoil.val) + 1 ∧ ∀ rate ∈ rof, 0 < rate → hits ≤ rate := by
    unfold hitCount
    cases rof with
    | none => simp
    | some rate =>
      by_cases hrate : 0 < rate
      · simp [hrate]
      · simp [hrate]
  rw [hcount, ← hpaid]
  exact ⟨fun h => ⟨h.paid, h.shot⟩, fun h => ⟨h.1, h.2⟩⟩

/-- The greatest number of hits that is paid for is the one that is counted. -/
theorem isGreatest_affordable_iff (hmargin : 0 < margin) (hrecoil : 0 < recoil) :
    IsGreatest {hits | Affordable margin recoil rof hits} hits ↔ hitCount margin recoil rof = hits := by
  constructor
  · rintro ⟨hmem, hgreatest⟩
    exact le_antisymm (hgreatest ((affordable_iff hmargin hrecoil).2 (le_refl _)))
      ((affordable_iff hmargin hrecoil).1 hmem)
  · rintro rfl
    exact ⟨(affordable_iff hmargin hrecoil).2 (le_refl _),
      fun hits h => (affordable_iff hmargin hrecoil).1 h⟩

/-! ## The report -/

/-- Hits are reported for a positive margin and a positive recoil, when there is more than one. -/
theorem extraHits_eq_some : extraHits margin rcl rof = some hits ↔
    0 < margin ∧ ∃ recoil, rcl = some recoil ∧ 0 < recoil ∧ hitCount margin recoil rof = hits ∧ 1 < hits := by
  cases rcl with
  | none => simp [extraHits]
  | some recoil =>
    have hcount : extraHits margin (some recoil) rof =
        if 0 < margin && 0 < recoil then
          (if 1 < hitCount margin recoil rof then some (hitCount margin recoil rof) else none)
        else none := rfl
    rw [hcount, Option.ite_none_right_eq_some, Option.ite_none_right_eq_some, Bool.and_eq_true,
      decide_eq_true_eq, decide_eq_true_eq, Option.some.injEq]
    constructor
    · rintro ⟨⟨hmargin, hrecoil⟩, hmore, rfl⟩
      exact ⟨hmargin, recoil, rfl, hrecoil, rfl, hmore⟩
    · rintro ⟨hmargin, recoil', hsame, hrecoil, rfl, hmore⟩
      cases hsame
      exact ⟨⟨hmargin, hrecoil⟩, hmore, rfl⟩

/-- Hits that are not reported count as the free one. -/
theorem one_le_extraHits (margin : Amount) (rcl rof : Option Amount) :
    1 ≤ (extraHits margin rcl rof).getD 1 := by
  cases hhits : extraHits margin rcl rof with
  | none => exact le_refl 1
  | some hits =>
    obtain ⟨-, -, -, -, -, hmore⟩ := extraHits_eq_some.1 hhits
    exact hmore.le

/-- A greater margin pays for as many hits. -/
theorem Affordable.mono (h : Affordable margin recoil rof hits) (hle : margin ≤ margin') :
    Affordable margin' recoil rof hits :=
  ⟨Int.le_trans h.paid hle, h.shot⟩

theorem extraHits_le_extraHits (hle : margin ≤ margin') (rcl rof : Option Amount) :
    (extraHits margin rcl rof).getD 1 ≤ (extraHits margin' rcl rof).getD 1 := by
  cases hhits : extraHits margin rcl rof with
  | none => exact one_le_extraHits margin' rcl rof
  | some hits =>
    obtain ⟨hmargin, recoil, rfl, hrecoil, rfl, hmore⟩ := extraHits_eq_some.1 hhits
    have hmargin' : 0 < margin' := hmargin.trans_le hle
    -- what the smaller margin pays for is still paid for, so the new count is no smaller
    have hcount : hitCount margin recoil rof ≤ hitCount margin' recoil rof :=
      (affordable_iff hmargin' hrecoil).1
        (((affordable_iff hmargin hrecoil).2 (le_refl _)).mono hle)
    have hmore' : 1 < hitCount margin' recoil rof := hmore.trans_le hcount
    rw [extraHits_eq_some.2 ⟨hmargin', recoil, rfl, hrecoil, rfl, hmore'⟩]
    exact hcount

end Hits

/-- Hits are reported exactly for a positive margin and a positive recoil, and then they are the greatest
number of hits that the margin pays for and the rate of fire allows, unless that is less than two. With a
greater margin there are no fewer hits. -/
theorem extraHits_greatest (rcl rof : Option Amount) :
    (∀ margin hits, extraHits margin rcl rof = some hits ↔
      0 < margin ∧ ∃ recoil, rcl = some recoil ∧ 0 < recoil ∧
        IsGreatest {hits | Affordable margin recoil rof hits} hits ∧ 2 ≤ hits) ∧
      ∀ margin margin', margin ≤ margin' →
        (extraHits margin rcl rof).getD 1 ≤ (extraHits margin' rcl rof).getD 1 := by
  refine ⟨fun margin hits => ?_, fun margin margin' hle => extraHits_le_extraHits hle rcl rof⟩
  rw [extraHits_eq_some]
  refine and_congr_right fun hmargin => exists_congr fun recoil => and_congr_right fun _ =>
    and_congr_right fun hrecoil => ?_
  rw [isGreatest_affordable_iff hmargin hrecoil]
  exact Iff.rfl

/-- The greatest margin with a recoil of one pays for one hit more than an amount can count. -/
theorem extraHits_greatest_limit :
    let most := Amount.clamp 2147483647
    (2147483646 : Amount) ≤ most ∧ extraHits most (some 1) none = some most ∧
      IsGreatest {hits | Affordable most 1 none hits} most ∧
      (extraHits 2147483646 (some 1) none).getD 1 ≤ (extraHits most (some 1) none).getD 1 := by
  intro most
  have hle : (2147483646 : Amount) ≤ most := by decide
  have hhits : extraHits most (some 1) none = some most := by decide
  obtain ⟨hiff, hmono⟩ := extraHits_greatest (some 1) none
  obtain ⟨-, recoil, hrecoil, -, hgreatest, -⟩ := (hiff most most).1 hhits
  cases hrecoil
  exact ⟨hle, hhits, hgreatest, hmono _ _ hle⟩

end Rollmark
