/-
Explicit sixes in any text: a second pass finds nothing to do, because the first one has given sides to all
dice. It has put in sixes and nothing else, each of them right behind a digit and a `d`.

The scan knows of the text before a place what stands right before it, a digit, a `d` behind a digit or
neither (`Place.Stands`). A six that is put in is a digit that the scan would not have met otherwise, but behind
the character that follows it, which is no digit, the scan stands where it stood before.
-/
import Mathlib.Data.List.Induction
import Rollmark.Proofs.Formula.Sixes

namespace Rollmark.Formula

/-! ## One character -/

/-- The place behind one more character. -/
def Place.next (p : Place) (c : Char) : Place :=
  if Text.isDecimalDigit c then p.afterDigit
  else if p = .count && c == 'd' then .marker else .outside

theorem next_of_digit {c : Char} (hc : Text.isDecimalDigit c = true) (p : Place) : p.next c = p.afterDigit :=
  if_pos hc

/-- No six is put in where none is due. -/
theorem sixesFrom_cons {p : Place} {c : Char} (h : p = .marker → Text.isDecimalDigit c = true) (cs : List Char) :
    sixesFrom p (c :: cs) = c :: sixesFrom (p.next c) cs := by
  rw [sixesFrom]
  by_cases hc : Text.isDecimalDigit c = true
  · rw [if_pos hc, next_of_digit hc]
  · have hp : p ≠ .marker := fun hp => hc (h hp)
    simp only [Place.next, if_neg hc, if_neg hp]

/-- A six is put in between the `d` of a count and a character that is no digit. -/
theorem sixesFrom_marker_cons {c : Char} (hc : Text.isDecimalDigit c = false) (cs : List Char) :
    sixesFrom .marker (c :: cs) = '6' :: c :: sixesFrom .outside cs := by
  rw [sixesFrom, hc]
  rfl

/-- Whether a six is due before a character. -/
theorem due_or (p : Place) (c : Char) :
    (p = .marker ∧ Text.isDecimalDigit c = false) ∨ (p = .marker → Text.isDecimalDigit c = true) := by
  by_cases hp : p = .marker
  · cases hc : Text.isDecimalDigit c with
    | true => exact .inr fun _ => rfl
    | false => exact .inl ⟨hp, rfl⟩
  · exact .inr fun h => absurd h hp

/-! ## A second pass -/

theorem sixesFrom_sixesFrom (p : Place) (cs : List Char) : sixesFrom p (sixesFrom p cs) = sixesFrom p cs := by
  induction cs generalizing p with
  | nil => cases p <;> rfl
  | cons c cs ih =>
    rcases due_or p c with ⟨rfl, hc⟩ | hfree
    · -- the six is read as sides, and behind them the character leads outside as it did before
      have hsides (rest : List Char) : sixesFrom .sides (c :: rest) = c :: sixesFrom .outside rest := by
        rw [sixesFrom, hc]
        rfl
      rw [sixesFrom_marker_cons hc, sixesFrom_cons (fun _ => rfl), next_of_digit rfl, Place.afterDigit, hsides, ih]
    · rw [sixesFrom_cons hfree, sixesFrom_cons hfree, ih]

/-! ## What stands before a place -/

/-- The place behind a text. -/
def Place.through (p : Place) (cs : List Char) : Place := cs.foldl Place.next p

/-- A text ends with a `d` that has a digit right before it. -/
def EndsLikeDice (cs : List Char) : Prop :=
  ∃ before c, cs = before ++ [c, 'd'] ∧ Text.isDecimalDigit c = true

/-- What a place says of the text before it. -/
def Place.Stands (p : Place) (before : List Char) : Prop :=
  match p with
  | .outside => True
  | .count | .sides => endsInDigit before = true
  | .marker => EndsLikeDice before

theorem Place.Stands.next {p : Place} {before : List Char} (h : p.Stands before) (c : Char) :
    (p.next c).Stands (before ++ [c]) := by
  unfold Place.next
  split
  · rename_i hc
    have hdigit : endsInDigit (before ++ [c]) = true := (endsInDigit_concat before c).trans hc
    cases p <;> exact hdigit
  · split
    · rename_i hletter
      rw [Bool.and_eq_true, decide_eq_true_eq, beq_iff_eq] at hletter
      obtain ⟨rfl, rfl⟩ := hletter
      obtain ⟨d, hlast, hd⟩ := (Option.any_eq_true _ _).1 h
      obtain ⟨front, rfl⟩ := List.getLast?_eq_some_iff.1 hlast
      exact ⟨front, d, by simp, hd⟩
    · trivial

theorem stands_through (cs : List Char) : (Place.through .outside cs).Stands cs := by
  induction cs using List.reverseRecOn with
  | nil => trivial
  | append_singleton cs c ih =>
    rw [Place.through, List.foldl_append]
    exact ih.next c

/-! ## The sixes that are put in -/

/-- A text, and the same text with some more sixes in it. Each of them stands right behind a digit and a `d`, and
in front of something else than a digit. -/
inductive Sixed : List Char → List Char → Prop
  | same (cs : List Char) : Sixed cs cs
  | six {piece cs cs' : List Char} (hpiece : EndsLikeDice piece)
      (hnext : ∀ c ∈ cs.head?, Text.isDecimalDigit c = false) (h : Sixed cs cs') :
      Sixed (piece ++ cs) (piece ++ '6' :: cs')

/-- The scan of a text, where `before` is what it has passed since it put in a six. -/
theorem sixed_sixesFrom (cs : List Char) {p : Place} {before : List Char} (h : p.Stands before) :
    Sixed (before ++ cs) (before ++ sixesFrom p cs) := by
  induction cs generalizing p before with
  | nil =>
    cases p with
    | marker => exact .six h (by rintro c ⟨⟩) (.same [])
    | _ => exact .same _
  | cons c cs ih =>
    rcases due_or p c with ⟨rfl, hc⟩ | hfree
    · have hrest : Sixed (c :: cs) (c :: sixesFrom .outside cs) := @ih .outside [c] trivial
      rw [sixesFrom_marker_cons hc]
      exact .six h (by rintro d ⟨⟩; exact hc) hrest
    · have hrest := ih (h.next c)
      rw [List.append_assoc, List.append_assoc] at hrest
      rw [sixesFrom_cons hfree]
      exact hrest

/-! ## Dice that are left -/

/-- At least one digit, and nothing but digits. -/
def IsDigits (cs : List Char) : Prop := cs ≠ [] ∧ ∀ c ∈ cs, Text.isDecimalDigit c = true

/-- A text ends with the `d` of dice. The digits before it are a count, and no sides of other dice: a count
stands behind something else than a digit or a `d` with a digit before it, or behind the `d` that follows the
sides of the dice before it, as the three in `1d2d3d`. -/
inductive EndsInDice : List Char → Prop
  | first {before count : List Char} (hdigit : endsInDigit before = false) (hletter : ¬ EndsLikeDice before)
      (hcount : IsDigits count) : EndsInDice (before ++ (count ++ ['d']))
  | behind {before sides count : List Char} (hbefore : EndsInDice before) (hsides : IsDigits sides)
      (hcount : IsDigits count) : EndsInDice (before ++ (sides ++ 'd' :: (count ++ ['d'])))

theorem through_append (p : Place) (as bs : List Char) : p.through (as ++ bs) = (p.through as).through bs :=
  List.foldl_append

theorem through_digits {ds : List Char} (h : IsDigits ds) (p : Place) : p.through ds = p.afterDigit := by
  obtain ⟨hne, hds⟩ := h
  induction ds generalizing p with
  | nil => exact absurd rfl hne
  | cons d ds ih =>
    rw [List.forall_mem_cons] at hds
    rw [Place.through, List.foldl_cons, next_of_digit hds.1]
    cases ds with
    | nil => rfl
    | cons e ds =>
      have hrest : Place.through p.afterDigit (e :: ds) = p.afterDigit.afterDigit :=
        ih _ (List.cons_ne_nil e ds) hds.2
      exact hrest.trans (by cases p <;> rfl)

theorem EndsInDice.through {cs : List Char} (h : EndsInDice cs) : Place.through .outside cs = .marker := by
  induction h with
  | @first before count hdigit hletter hcount =>
    have houtside : Place.through .outside before = .outside := by
      have hstands := stands_through before
      cases hplace : Place.through .outside before with
      | outside => rfl
      | marker =>
        rw [hplace] at hstands
        exact absurd hstands hletter
      | _ =>
        rw [hplace] at hstands
        exact absurd (hdigit.symm.trans hstands) Bool.false_ne_true
    rw [through_append, through_append, houtside, through_digits hcount]
    rfl
  | behind hbefore hsides hcount ih =>
    have hletter (p : Place) (cs : List Char) : p.through ('d' :: cs) = (p.next 'd').through cs := rfl
    rw [through_append, through_append, ih, through_digits hsides, hletter, through_append,
      through_digits hcount]
    rfl

/-- In a text that stays as it is, every `d` behind a count has sides. -/
theorem head?_of_marker {p : Place} {before after : List Char}
    (h : sixesFrom p (before ++ after) = before ++ after) (hmarker : p.through before = .marker) :
    ∃ c ∈ after.head?, Text.isDecimalDigit c = true := by
  induction before generalizing p with
  | nil =>
    obtain rfl : p = .marker := hmarker
    cases after with
    | nil => cases h
    | cons c after =>
      rcases due_or .marker c with ⟨-, hc⟩ | hfree
      · rw [List.nil_append, sixesFrom_marker_cons hc] at h
        obtain ⟨rfl, -⟩ := List.cons.inj h
        cases hc
      · exact ⟨c, rfl, hfree rfl⟩
  | cons c before ih =>
    rcases due_or p c with ⟨rfl, hc⟩ | hfree
    · rw [List.cons_append, sixesFrom_marker_cons hc] at h
      obtain ⟨rfl, -⟩ := List.cons.inj h
      cases hc
    · rw [List.cons_append, sixesFrom_cons hfree] at h
      exact ih (List.cons.inj h).2 hmarker

/-! ## Explicit texts -/

/-- Once the sixes are put in there are none left to put in. Nothing else is put in, and all dice have sides. -/
theorem withSixes_inserts (s : String) :
    withSixes (withSixes s) = withSixes s ∧
      Sixed s.toList (withSixes s).toList ∧
      ∀ before after, (withSixes s).toList = before ++ after → EndsInDice before →
        ∃ c ∈ after.head?, Text.isDecimalDigit c = true := by
  have hchars : (withSixes s).toList = sixesFrom .outside s.toList := String.toList_ofList
  have hfixed := sixesFrom_sixesFrom .outside s.toList
  refine ⟨?_, ?_, ?_⟩
  · rw [withSixes, hchars, hfixed]
    rfl
  · rw [hchars]
    exact @sixed_sixesFrom s.toList .outside [] trivial
  · intro before after hsplit hdice
    rw [← hchars, hsplit] at hfixed
    exact head?_of_marker hfixed hdice.through

/-- The two in the middle is sides, so that the three behind it is a count. -/
theorem withSixes_inserts_chain :
    withSixes "1d2d3d" = "1d2d3d6" ∧ EndsInDice "1d2d3d".toList ∧
      ∃ c ∈ ['6'].head?, Text.isDecimalDigit c = true := by
  have hdigit (c : Char) (hc : Text.isDecimalDigit c = true) : IsDigits [c] :=
    ⟨List.cons_ne_nil c [], List.forall_mem_singleton.2 hc⟩
  have hempty : ¬ EndsLikeDice [] := by
    rintro ⟨before, c, h, -⟩
    simp at h
  have hone : EndsInDice ([] ++ (['1'] ++ ['d'])) := .first rfl hempty (hdigit '1' rfl)
  have hdice : EndsInDice "1d2d3d".toList := .behind hone (hdigit '2' rfl) (hdigit '3' rfl)
  exact ⟨by decide, hdice, (withSixes_inserts "1d2d3d").2.2 _ ['6'] (by decide) hdice⟩

end Rollmark.Formula
