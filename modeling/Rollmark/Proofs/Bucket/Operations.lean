/-
Operations on a bucket: whatever is done with a bucket, in any order and with any amounts, every
description stands in it once, its sum is that of its entries from first to last, and it is restored
from its own snapshot. What is added under a description that is already there moves no entry.
-/
import Mathlib.Data.List.Nodup
import Rollmark.Proofs.Bucket.Merge

namespace Rollmark.Bucket

/-! ## Adding to an entry -/

/-- A modifier with a description that is already there is added to the entry with that description,
and every entry stays in its place. -/
theorem merge_of_mem {m : Modifier} {es : List Modifier} (hnodup : (es.map (·.desc)).Nodup)
    (h : m.desc ∈ es.map (·.desc)) :
    merge m es = es.map fun e => if e.desc = m.desc then ⟨e.amount + m.amount, e.desc⟩ else e := by
  induction es with
  | nil => cases h
  | cons e es ih =>
    rw [List.map_cons, List.nodup_cons] at hnodup
    obtain ⟨hfresh, hrest⟩ := hnodup
    rw [merge, List.map_cons]
    by_cases he : e.desc = m.desc
    · -- the description stands nowhere else, so the other entries are what they were
      have hothers : ∀ e' ∈ es, e'.desc ≠ m.desc := fun e' he' heq =>
        hfresh (List.mem_map.2 ⟨e', he', heq.trans he.symm⟩)
      rw [if_pos he, if_pos he, List.map_congr_left fun e' he' => if_neg (hothers e' he'),
        List.map_id']
    · rw [List.map_cons, List.mem_cons] at h
      rw [if_neg he, if_neg he, ih hrest (h.resolve_left (Ne.symm he))]

/-! ## Runs -/

/-- What can be done with a bucket. -/
inductive Operation where
  | add (m : Modifier)
  | drain (external : List Modifier)
  | remove (index : Nat)
  | clear
  | setRange (amount : Amount)
  | restore (s : Snapshot)

/-- The bucket after an operation. -/
def after (b : Bucket) : Operation → Bucket
  | .add m => b.add m
  | .drain external => (b.drain external).2
  | .remove index => (b.remove index).2
  | .clear => b.clear
  | .setRange amount => b.setRange amount
  | .restore s => b.restore s

/-- The bucket after some operations. -/
def afterAll (b : Bucket) (operations : List Operation) : Bucket := operations.foldl after b

section Steps

variable {b : Bucket} (h : b.WellFormed)
include h

theorem WellFormed.after (x : Operation) : (b.after x).WellFormed := by
  cases x with
  | add m => exact h.add m
  | drain external => exact wellFormed_empty
  | remove index => exact h.remove index
  | clear => exact wellFormed_clear b
  | setRange amount => exact h.setRange amount
  | restore s => exact wellFormed_restore b s

theorem WellFormed.afterAll (operations : List Operation) : (b.afterAll operations).WellFormed := by
  induction operations generalizing b with
  | nil => exact h
  | cons x operations ih => exact ih (h.after x)

end Steps

/-- After any operations on the empty bucket, every description stands in the bucket once, so there
is at most one measured range; the sum is that of the amounts from left to right; the bucket is
restored from its own snapshot, whatever was there before; and what is added under a description that
is already there changes the amount of that entry and nothing else. -/
theorem consistent_afterAll (operations : List Operation) :
    let b := empty.afterAll operations
    (b.entries.map (·.desc)).Nodup ∧ (b.entries.map (·.desc)).count rangeDesc ≤ 1 ∧
      b.sum = (b.entries.map (·.amount)).foldl (· + ·) 0 ∧
      (∀ before : Bucket, before.restore b.snapshot = b) ∧
      ∀ m : Modifier, m.desc ∈ b.entries.map (·.desc) → (b.add m).entries =
        b.entries.map fun e => if e.desc = m.desc then ⟨e.amount + m.amount, e.desc⟩ else e := by
  intro b
  have hb : b.WellFormed := wellFormed_empty.afterAll operations
  refine ⟨hb.nodup, List.nodup_iff_count_le_one.1 hb.nodup rangeDesc, hb.sum, hb.restore_snapshot, ?_⟩
  intro m hm
  exact merge_of_mem hb.nodup hm

/-- A measured range that was merged before, amounts that are stopped at the limits, and an entry
taken out of the middle. -/
theorem consistent_afterAll_range :
    let b := empty.afterAll [.restore ⟨[⟨2147483647, "aim"⟩, ⟨2, "aim"⟩], 7⟩, .add ⟨1, "cover"⟩,
      .add ⟨4, rangeDesc⟩, .remove 1, .setRange 3]
    "aim" ∈ b.entries.map (·.desc) ∧ (b.add ⟨5, "aim"⟩).entries =
      b.entries.map fun e => if e.desc = "aim" then ⟨e.amount + 5, e.desc⟩ else e := by
  intro b
  have haim : "aim" ∈ b.entries.map (·.desc) := by decide
  exact ⟨haim, (consistent_afterAll _).2.2.2.2 ⟨5, "aim"⟩ haim⟩

end Rollmark.Bucket
