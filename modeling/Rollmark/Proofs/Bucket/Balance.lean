/-
Amounts under a description: what is merged into a list of modifiers, filtered out of it or taken
out of it is all that changes under any description, as long as no amount is stopped at a limit.
-/
import Mathlib.Algebra.Order.Ring.Int
import Rollmark.Bucket
import Rollmark.Proofs.Amount

namespace Rollmark

namespace Modifier

/-- The sum of the amounts under a description, without limits. -/
def under (desc : String) (ms : List Modifier) : Int :=
  ((ms.filter fun m => m.desc = desc).map (·.amount.val)).sum

/-- The sum of the absolute values of the amounts, without limits. -/
def weight (ms : List Modifier) : Nat := (ms.map (·.amount.val.natAbs)).sum

section Lists

variable (desc : String)

@[simp] theorem under_nil : under desc [] = 0 := rfl

theorem under_cons (m : Modifier) (ms : List Modifier) :
    under desc (m :: ms) = (if m.desc = desc then m.amount.val else 0) + under desc ms := by
  unfold under
  by_cases hm : m.desc = desc
  · simp [hm]
  · simp [hm]

@[simp] theorem under_append (ms ms' : List Modifier) :
    under desc (ms ++ ms') = under desc ms + under desc ms' := by
  simp [under]

/-- Every modifier passes a test or does not. -/
theorem under_filter (p : Modifier → Bool) (ms : List Modifier) :
    under desc ms = under desc (ms.filter p) + under desc (ms.filter fun m => !p m) := by
  induction ms with
  | nil => rfl
  | cons m ms ih =>
    cases hm : p m with
    | true =>
      rw [List.filter_cons_of_pos hm, List.filter_cons_of_neg (by simp [hm]), under_cons, under_cons]
      omega
    | false =>
      rw [List.filter_cons_of_neg (by simp [hm]), List.filter_cons_of_pos (by simp [hm]), under_cons,
        under_cons]
      omega

/-- What stands at a position and what stands elsewhere. -/
theorem under_eraseIdx (ms : List Modifier) (index : Nat) :
    under desc ms = under desc ms[index]?.toList + under desc (ms.eraseIdx index) := by
  induction ms generalizing index with
  | nil => rfl
  | cons m ms ih =>
    cases index with
    | zero => simp [under_cons]
    | succ index =>
      have hrest := ih index
      rw [List.getElem?_cons_succ, List.eraseIdx_cons_succ, under_cons, under_cons]
      omega

end Lists

@[simp] theorem weight_append (ms ms' : List Modifier) : weight (ms ++ ms') = weight ms + weight ms' := by
  simp [weight]

/-- The total is exact when no sum on the way leaves the limits. -/
theorem val_total {ms : List Modifier}
    (h : ∀ before, before <+: ms.map (·.amount.val) → Amount.Fits before.sum) :
    (total ms).val = (ms.map (·.amount.val)).sum := by
  have hsum := @Amount.val_sum (ms.map (·.amount)) (by rwa [List.map_map])
  rwa [List.map_map] at hsum

end Modifier

namespace Bucket

open Modifier

/-- No amount is beyond a bound. -/
def Within (bound : Nat) (es : List Modifier) : Prop := ∀ e ∈ es, e.amount.val.natAbs ≤ bound

theorem Within.mono {bound bound' : Nat} {es es' : List Modifier} (h : Within bound es)
    (hb : bound ≤ bound') (hs : ∀ e ∈ es', e ∈ es) : Within bound' es' := fun e he =>
  Nat.le_trans (h e (hs e he)) hb

section Merged

variable {bound : Nat} {m : Modifier} {es : List Modifier} (h : Within bound es)
  (hlimit : bound + m.amount.val.natAbs ≤ 2147483647)
include h hlimit

/-- A modifier that is merged counts in full. -/
theorem under_merge (desc : String) : under desc (merge m es) = under desc es + under desc [m] := by
  induction es with
  | nil => rw [merge, under_nil, Int.zero_add]
  | cons e es ih =>
    rw [merge]
    by_cases he : e.desc = m.desc
    · -- the one amount that changes is not stopped at a limit
      have hbound := h e List.mem_cons_self
      have hsum : (e.amount + m.amount).val = e.amount.val + m.amount.val :=
        Amount.val_add (by omega) (by omega)
      rw [if_pos he]
      simp only [under_cons, under_nil, hsum, he]
      split <;> omega
    · have hrest := ih fun e' he' => h e' (List.mem_cons_of_mem e he')
      rw [if_neg he, under_cons, under_cons, hrest]
      omega

theorem within_merge : Within (bound + m.amount.val.natAbs) (merge m es) := by
  induction es with
  | nil =>
    rintro e (_ | ⟨_, ⟨⟩⟩)
    exact Nat.le_add_left _ _
  | cons e es ih =>
    have he := h e List.mem_cons_self
    have hes : Within bound es := fun e' he' => h e' (List.mem_cons_of_mem e he')
    rw [merge]
    split
    · have hsum : (e.amount + m.amount).val = e.amount.val + m.amount.val :=
        Amount.val_add (by omega) (by omega)
      intro e' he'
      rcases List.mem_cons.1 he' with rfl | he'
      · show (e.amount + m.amount).val.natAbs ≤ _
        rw [hsum]
        omega
      · exact Nat.le_trans (hes e' he') (Nat.le_add_right _ _)
    · intro e' he'
      rcases List.mem_cons.1 he' with rfl | he'
      · exact Nat.le_trans he (Nat.le_add_right _ _)
      · exact ih hes e' he'

end Merged

end Bucket

end Rollmark
