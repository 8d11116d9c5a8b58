/-
Block and parry: when a defense is refused. A positive value of the sheet itself is rolled when no weapon
is named. Otherwise the first weapon that has a value decides, and a zero there is refused as if there were
no weapon at all, although a weapon behind it may have a positive value. Only such a zero makes the
difference: without one a defense is refused when there is nothing positive to roll, and never else.
-/
import Rollmark.Proofs.Intent
import Rollmark.Proofs.Text.Scan

namespace Rollmark

namespace Sheet

variable (s : Sheet) (path : String) (weapon : Option String)

/-- The value of a defense that belongs to no weapon. It does not count when a weapon is named. -/
def ownDefense? : Option Amount := if weapon = none then s.basicDefense? path else none

/-- The values of a defense of all weapons whose names begin with the filter, in the order of the sheet. -/
def weaponDefenses : List Amount :=
  (s.meleeDefenses.filter fun d => weapon.all fun w => w.toList.isPrefixOf d.name.toList).filterMap
    (·.value? path)

end Sheet

/-- A search for the first element with a value that also fits finds the first value of those that fit. -/
theorem find?_bind_eq_head? {α β : Type} (value : α → Option β) (fits : α → Bool) (l : List α) :
    (l.find? fun a => (value a).isSome && fits a).bind value = ((l.filter fits).filterMap value).head? := by
  induction l with
  | nil => rfl
  | cons a l ih =>
    cases hfits : fits a with
    | false =>
      rw [List.find?_cons_of_neg (by simp [hfits]), List.filter_cons_of_neg (by simp [hfits]), ih]
    | true =>
      rw [List.filter_cons_of_pos hfits]
      cases hvalue : value a with
      | none => rw [List.find?_cons_of_neg (by simp [hvalue]), List.filterMap_cons_none hvalue, ih]
      | some b =>
        rw [List.find?_cons_of_pos (by simp [hvalue, hfits]), List.filterMap_cons_some hvalue]
        exact hvalue

namespace Intent

section Defense

variable {actor : Sheet} {desc path : String} {weapon : Option String}

/-- The weapon that decides is the first one with a value. -/
theorem head?_weaponDefenses :
    (actor.weaponDefenses path weapon).head? =
      (actor.meleeDefenses.find? fun d => (d.value? path).isSome
        && weapon.all fun w => (Text.dropLead? w.toList d.name.toList).isSome).bind (·.value? path) := by
  simp only [Text.isSome_dropLead?]
  exact (find?_bind_eq_head? _ _ _).symm

/-- A target is refused when there is none or when it is zero. -/
theorem refused_iff (target : Option Amount) (label : String) {e : Error} :
    (match target with
      | some t =>
        if t = 0 then .error (.noDefense desc) else .ok (check (some t) fun t => .check t label)
      | none => .error (.noDefense desc) : Except Error Intent) = .error e ↔
      e = .noDefense desc ∧ ∀ t ∈ target, t = 0 := by
  cases target with
  | none => simp [eq_comm]
  | some t =>
    by_cases ht : t = 0
    · simp [ht, eq_comm]
    · simp [ht]

/-- A defense is refused when the sheet has no positive value of its own and the value that decides, of the
first weapon with one or else of the sheet, is zero or missing. -/
theorem defense_eq_error_iff {e : Error} :
    defense actor desc weapon path = .error e ↔ e = .noDefense desc ∧
      (∀ t ∈ actor.ownDefense? path weapon, ¬ 0 < t) ∧
      ∀ t ∈ (actor.weaponDefenses path weapon).head?.or (actor.ownDefense? path weapon), t = 0 := by
  have hown : (if weapon.isNone then actor.basicDefense? path else none) = actor.ownDefense? path weapon := by
    cases weapon <;> rfl
  rw [head?_weaponDefenses]
  unfold defense
  dsimp only
  rw [hown]
  generalize actor.ownDefense? path weapon = own
  by_cases hpositive : (own.any fun t => 0 < t) = true
  · -- the sheet's own value is rolled
    obtain ⟨t, rfl, ht⟩ := (Option.any_eq_true _ _).1 hpositive
    have hpos : 0 < t := of_decide_eq_true ht
    have hne : t ≠ 0 := by
      rintro rfl
      exact absurd hpos (by decide)
    simp [hpos, hne]
  · have hnot : ∀ t ∈ own, ¬ 0 < t := fun t ht hpos =>
      hpositive ((Option.any_eq_true _ _).2 ⟨t, ht, decide_eq_true hpos⟩)
    rw [and_iff_right hnot]
    simp only [hpositive, Bool.false_eq_true, if_false]
    cases hfound : actor.meleeDefenses.find? fun d => (d.value? path).isSome
        && weapon.all fun w => (Text.dropLead? w.toList d.name.toList).isSome with
    | none => exact refused_iff own desc
    | some d =>
      obtain ⟨v, hv⟩ : ∃ v, d.value? path = some v := by
        have hfits := List.find?_some hfound
        rw [Bool.and_eq_true] at hfits
        exact Option.isSome_iff_exists.1 hfits.1
      rw [Option.bind_some, hv, Option.some_or]
      dsimp only
      rw [hv]
      exact refused_iff (some v) _

end Defense

end Intent

/-- When a block or a parry is refused: the sheet has no positive value that counts, and the first weapon
with a value has zero, or no weapon has a value and the sheet has none but zero. A refusal leaves the bucket
alone. -/
theorem dispatch_defense_eq_error_iff (settings : Settings) (sheet : Sheet) (bucket bucket' : Bucket)
    (orig desc path : String) (blind : Bool) (weapon : Option String) (e : Error) :
    let own := sheet.ownDefense? path weapon
    let weapons := sheet.weaponDefenses path weapon
    dispatch settings (some sheet) ⟨orig, blind, .defense desc weapon path⟩ bucket = (.error e, bucket') ↔
      e = .noDefense desc ∧ bucket' = bucket ∧ (∀ t ∈ own, ¬ 0 < t) ∧
        (weapons.head? = some 0 ∨ weapons = [] ∧ ∀ t ∈ own, t = 0) := by
  intro own weapons
  have hkind : Intent.ofKind settings (some sheet) (.defense desc weapon path) =
      Intent.defense sheet desc weapon path := rfl
  have hdecides : (∀ t ∈ weapons.head?.or own, t = 0) ↔
      weapons.head? = some 0 ∨ weapons = [] ∧ ∀ t ∈ own, t = 0 := by
    cases weapons with
    | nil => simp
    | cons v more => simp
  rw [← hdecides, dispatch_eq_error_iff, hkind, Intent.defense_eq_error_iff, and_comm, and_left_comm]

/-- A weapon with a parry of zero hides the one behind it. -/
theorem dispatch_defense_zero_first :
    let sheet : Sheet :=
      { melee := [⟨"Punch", "", "", "", "0", ""⟩, ⟨"Rapier", "", "", "", "11", ""⟩] }
    sheet.weaponDefenses "parry" none = [0, 11] ∧
      dispatch {} (some sheet) ⟨"Parry", false, .defense "Parry" none "parry"⟩ .empty =
        (.error (.noDefense "Parry"), .empty) := by
  decide

end Rollmark
