/-
The measured range: measuring replaces what was measured before and never adds to it. The entries for other
things stay as they are, in their order, and behind them stands the new range unless it is zero.

The entries for other things do not depend on anything that is merged under the description of the range, so
a measurement leaves nothing of an earlier one, nor of amounts that were added by hand in between.
-/
import Rollmark.Proofs.Bucket.Collect

namespace Rollmark.Bucket

/-- The entries that are not for the measured range. -/
def others (es : List Modifier) : List Modifier := es.filter fun e => e.desc ≠ rangeDesc

/-- The entry for a measured range; there is none for zero. -/
def rangeEntries (amount : Amount) : List Modifier := if amount = 0 then [] else [⟨amount, rangeDesc⟩]

/-! ## Entries for other things -/

section Others

variable {e : Modifier} {es : List Modifier}

theorem others_cons_of_range (h : e.desc = rangeDesc) : others (e :: es) = others es := by
  simp [others, h]

theorem others_cons_of_ne (h : e.desc ≠ rangeDesc) : others (e :: es) = e :: others es := by
  simp [others, h]

end Others

theorem others_append (es es' : List Modifier) : others (es ++ es') = others es ++ others es' :=
  List.filter_append es es'

theorem others_others (es : List Modifier) : others (others es) = others es := by
  simp [others]

theorem others_rangeEntries (amount : Amount) : others (rangeEntries amount) = [] := by
  unfold rangeEntries
  split <;> simp [others]

theorem rangeDesc_notMem_others (es : List Modifier) : rangeDesc ∉ (others es).map (·.desc) := by
  simp [others]

/-- What is merged for the range changes no other entry. -/
theorem others_merge_of_range {m : Modifier} (h : m.desc = rangeDesc) (es : List Modifier) :
    others (merge m es) = others es := by
  induction es with
  | nil => exact others_cons_of_range h
  | cons e es ih =>
    rw [merge]
    split
    · rename_i he
      have hrange : e.desc = rangeDesc := he.trans h
      rw [others_cons_of_range hrange]
      exact others_cons_of_range hrange
    · by_cases hrange : e.desc = rangeDesc
      · rw [others_cons_of_range hrange, others_cons_of_range hrange, ih]
      · rw [others_cons_of_ne hrange, others_cons_of_ne hrange, ih]

/-- What is merged for anything else does not look at the range. -/
theorem others_merge_of_ne {m : Modifier} (h : m.desc ≠ rangeDesc) (es : List Modifier) :
    others (merge m es) = merge m (others es) := by
  induction es with
  | nil => exact others_cons_of_ne h
  | cons e es ih =>
    rw [merge]
    split
    · rename_i he
      have hother : e.desc ≠ rangeDesc := by rwa [he]
      rw [others_cons_of_ne hother, merge, if_pos he]
      exact others_cons_of_ne hother
    · rename_i he
      by_cases hrange : e.desc = rangeDesc
      · rw [others_cons_of_range hrange, others_cons_of_range hrange, ih]
      · rw [others_cons_of_ne hrange, others_cons_of_ne hrange, merge, if_neg he, ih]

theorem others_addAll (b : Bucket) (ms : List Modifier) : others (b.addAll ms).entries =
    (others ms).foldl (fun kept m => merge m kept) (others b.entries) := by
  induction ms generalizing b with
  | nil => rfl
  | cons m ms ih =>
    have hrest : others (b.addAll (m :: ms)).entries =
        (others ms).foldl (fun kept m => merge m kept) (others (merge m b.entries)) := ih (b.add m)
    by_cases hm : m.desc = rangeDesc
    · rw [hrest, others_merge_of_range hm, others_cons_of_range hm]
    · rw [hrest, others_merge_of_ne hm, others_cons_of_ne hm, List.foldl_cons]

/-! ## Measuring -/

/-- A measurement leaves the entries for other things and the new range. -/
theorem setRange_eq (b : Bucket) (amount : Amount) :
    b.setRange amount = ofEntries (others b.entries ++ rangeEntries amount) := by
  unfold setRange rangeEntries
  split
  · rw [List.append_nil]
    rfl
  · rw [add]
    exact congrArg ofEntries (merge_of_notMem (rangeDesc_notMem_others b.entries))

/-- Buckets with the same entries for other things are the same after a measurement. -/
theorem setRange_congr {b b' : Bucket} (h : others b.entries = others b'.entries) (amount : Amount) :
    b.setRange amount = b'.setRange amount := by
  rw [setRange_eq, setRange_eq, h]

theorem others_setRange (b : Bucket) (amount : Amount) :
    others (b.setRange amount).entries = others b.entries := by
  rw [setRange_eq]
  show others (others b.entries ++ rangeEntries amount) = _
  rw [others_append, others_others, others_rangeEntries, List.append_nil]

/-- Measuring the range replaces it. In any bucket, and so in every one that operations can reach, the
entries for other things stay in their order and with their amounts, behind them stands the range unless it
is zero, and the sum is that of these entries. Hence only the last measurement counts, also when amounts were
added or merged under the description of the range before the first one or since. -/
theorem setRange_replaces (b : Bucket) (amount : Amount) :
    (b.setRange amount).entries = b.entries.filter (fun e => e.desc ≠ rangeDesc) ++
      (if amount = 0 then [] else [⟨amount, rangeDesc⟩]) ∧
    (b.setRange amount).sum = Amount.sum ((b.setRange amount).entries.map (·.amount)) ∧
    (∀ before, (b.setRange before).setRange amount = b.setRange amount) ∧
    (∀ added, (b.add ⟨added, rangeDesc⟩).setRange amount = b.setRange amount) ∧
    ∀ (before : Amount) (ms : List Modifier), ((b.setRange before).addAll ms).setRange amount =
      (b.addAll (ms.filter fun m => m.desc ≠ rangeDesc)).setRange amount := by
  refine ⟨?_, ?_, fun before => ?_, fun added => ?_, fun before ms => ?_⟩
  · rw [setRange_eq]
    rfl
  · rw [setRange_eq]
    rfl
  · exact setRange_congr (others_setRange b before) amount
  · exact setRange_congr (others_merge_of_range rfl b.entries) amount
  · have hothers : others ((b.setRange before).addAll ms).entries = others (b.addAll (others ms)).entries := by
      rw [others_addAll, others_addAll, others_setRange, others_others]
    exact setRange_congr hothers amount

/-- The range is measured twice, with an amount added to it by hand in between. -/
example : ((((empty.add ⟨2, "aim"⟩).setRange 5).add ⟨1, rangeDesc⟩).add ⟨4, "cover"⟩).setRange (.clamp (-3)) =
    ⟨[⟨2, "aim"⟩, ⟨4, "cover"⟩, ⟨.clamp (-3), rangeDesc⟩], 3⟩ := by decide

end Rollmark.Bucket
