/-
Explicit sixes: in a text with one `d` there is at most one place for a six, right behind that `d`. A
formula that is laid out without sides is laid out with six of them once the sixes are put in, and nothing
else is put in.
-/
import Mathlib.Data.List.Induction
import Rollmark.Proofs.Formula.Layout

namespace Rollmark.Formula

open Text (Numeral)

/-- Where no `d` stands, no six is put in. -/
theorem sixesFrom_eq_self {cs : List Char} (h : 'd' ∉ cs) {p : Place} (hp : p ≠ .marker) :
    sixesFrom p cs = cs := by
  induction cs generalizing p with
  | nil =>
    cases p with
    | marker => exact absurd rfl hp
    | _ => rfl
  | cons c cs ih =>
    rw [List.mem_cons, not_or] at h
    rw [sixesFrom]
    split
    · have hdigit : p.afterDigit ≠ .marker := by cases p <;> decide
      rw [ih h.2 hdigit]
    · have hletter : (p = .count && c == 'd') = false := by
        rw [beq_false_of_ne (Ne.symm h.1), Bool.and_false]
      have hrest := @ih h.2 .outside (by decide)
      simp only [hletter, Bool.false_eq_true, if_false, hrest]

/-- Behind a count with its `d` a six is put in when no sides follow. -/
theorem sixesFrom_marker {cs : List Char} (h : 'd' ∉ cs)
    (hsides : ∀ c ∈ cs.head?, Text.isDecimalDigit c = false) : sixesFrom .marker cs = '6' :: cs := by
  cases cs with
  | nil => rfl
  | cons c cs =>
    have hc : Text.isDecimalDigit c = false := hsides c rfl
    have hrest : sixesFrom .outside cs = cs :=
      sixesFrom_eq_self (fun hmem => h (List.mem_cons_of_mem c hmem)) (by decide)
    rw [sixesFrom, hc]
    exact congrArg ('6' :: c :: ·) hrest

/-! ## The place before a `d` -/

/-- Whether a text ends with a digit. -/
def endsInDigit (cs : List Char) : Bool := cs.getLast?.any Text.isDecimalDigit

/-- The place behind a text without a `d`. -/
def Place.behind (p : Place) (cs : List Char) : Place :=
  cs.foldl (fun p c => if Text.isDecimalDigit c then p.afterDigit else .outside) p

/-- A text without a `d` is passed over. -/
theorem sixesFrom_append {before : List Char} (h : 'd' ∉ before) {p : Place} (hp : p ≠ .marker)
    (rest : List Char) : sixesFrom p (before ++ rest) = before ++ sixesFrom (p.behind before) rest := by
  induction before generalizing p with
  | nil => rfl
  | cons c before ih =>
    rw [List.mem_cons, not_or] at h
    rw [List.cons_append, sixesFrom, Place.behind, List.foldl_cons]
    by_cases hc : Text.isDecimalDigit c = true
    · have hdigit : p.afterDigit ≠ .marker := by cases p <;> decide
      rw [if_pos hc, if_pos hc, ih h.2 hdigit]
      rfl
    · have hletter : (p = .count && c == 'd') = false := by
        rw [beq_false_of_ne (Ne.symm h.1), Bool.and_false]
      rw [if_neg hc, if_neg hc, if_neg hp, hletter]
      exact congrArg (c :: ·) (ih h.2 (by decide))

theorem endsInDigit_concat (cs : List Char) (c : Char) : endsInDigit (cs ++ [c]) = Text.isDecimalDigit c := by
  rw [endsInDigit, List.getLast?_concat, Option.any_some]

/-- Without a `d` before it, a place is behind a count when there is a digit right before it. -/
theorem behind_outside (cs : List Char) :
    Place.behind .outside cs = if endsInDigit cs then .count else .outside := by
  induction cs using List.reverseRecOn with
  | nil => rfl
  | append_singleton cs c ih =>
    have hbehind : Place.behind .outside (cs ++ [c]) =
        if Text.isDecimalDigit c then (Place.behind .outside cs).afterDigit else .outside := by
      rw [Place.behind, List.foldl_append]
      rfl
    have hcount : (Place.behind .outside cs).afterDigit = .count := by
      rw [ih]
      split <;> rfl
    rw [endsInDigit_concat, hbehind, hcount]

/-! ## One `d` -/

/-- Where a six is put in: behind a `d` with a count right before it and no sides right behind it. -/
def isBare (before after : List Char) : Bool :=
  endsInDigit before && !after.head?.any Text.isDecimalDigit

/-- In a text with one `d` there is at most one place for a six. -/
theorem sixesFrom_one {before after : List Char} (hbefore : 'd' ∉ before) (hafter : 'd' ∉ after) :
    sixesFrom .outside (before ++ 'd' :: after) =
      before ++ 'd' :: if isBare before after then '6' :: after else after := by
  have hself : ∀ p, p ≠ .marker → sixesFrom p after = after := fun p hp => sixesFrom_eq_self hafter hp
  rw [sixesFrom_append hbefore (by decide), behind_outside, isBare]
  cases endsInDigit before with
  | false => exact congrArg (before ++ 'd' :: ·) (hself .outside (by decide))
  | true =>
    refine congrArg (before ++ 'd' :: ·) ?_
    show sixesFrom .marker after = _
    cases after with
    | nil => rfl
    | cons c after =>
      rw [List.head?_cons, Option.any_some, Bool.true_and]
      cases hc : Text.isDecimalDigit c with
      | false => exact sixesFrom_marker hafter (by rintro c ⟨⟩; exact hc)
      | true =>
        have hrest : sixesFrom .sides after = after :=
          sixesFrom_eq_self (fun h => hafter (List.mem_cons_of_mem c h)) (by decide)
        rw [sixesFrom, if_pos hc]
        exact congrArg (c :: ·) hrest

theorem isBare_of_digits {ds after : List Char} (hne : ds ≠ []) (hds : ∀ c ∈ ds, Text.isDecimalDigit c = true)
    (hafter : ∀ c ∈ after.head?, Text.isDecimalDigit c = false) : isBare ds after = true := by
  rw [isBare, endsInDigit, List.getLast?_eq_some_getLast hne, Option.any_some, hds _ (List.getLast_mem hne),
    (Option.any_eq_false _ _).2 hafter]
  rfl

/-! ## Layouts -/

/-- The six sides of a die. -/
def sixSides : Numeral := ⟨['6'], List.cons_ne_nil _ _, List.all_eq_true.1 rfl⟩

/-- A layout without sides gets six of them. -/
theorem withSixes_chars {l : Layout} (h : l.sides = none) :
    withSixes (String.ofList l.chars) = String.ofList { l with sides := some sixSides }.chars := by
  have hletter : 'd' ∉ l.behindSides := fun hmem =>
    absurd (isPartChar_behindSides l 'd' hmem) (by decide)
  have hend := (beginsIn_behindSides l).class_eq_false (p := Text.isDecimalDigit) (by decide)
  have hbare := isBare_of_digits l.count.ne_nil (isDecimalDigit_chars l.count) hend
  rw [withSixes, String.toList_ofList, Layout.chars, h, Option.elim_none, List.nil_append,
    sixesFrom_one l.notMem_count hletter, if_pos hbare]
  rfl

end Rollmark.Formula
