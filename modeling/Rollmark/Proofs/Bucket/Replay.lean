/-
Replaying: a bucket that is restored from a snapshot is the bucket that is cleared and takes up the entries
of the snapshot one after another. Either way it has one entry for each description, in the order of their
first uses, with everything that was added under it from left to right.

Adding takes the sum anew after every modifier and restoring only at the end, so what the two have in common
is said of the entries, by induction on the modifier that came last.
-/
import Mathlib.Data.List.Induction
import Rollmark.Proofs.Bucket.Collect
import Rollmark.Proofs.Bucket.Operations

namespace Rollmark

namespace Modifier

/-- The sum of the amounts under a description from left to right, stopped at the limits after every step. -/
def sumUnder (desc : String) (ms : List Modifier) : Amount :=
  Amount.sum ((ms.filter fun m => m.desc = desc).map (·.amount))

theorem sumUnder_concat (desc : String) (ms : List Modifier) (m : Modifier) : sumUnder desc (ms ++ [m]) =
    if m.desc = desc then sumUnder desc ms + m.amount else sumUnder desc ms := by
  unfold sumUnder
  by_cases h : m.desc = desc
  · simp [h, Amount.sum]
  · simp [h]

theorem sumUnder_of_notMem {desc : String} {ms : List Modifier} (h : desc ∉ ms.map (·.desc)) :
    sumUnder desc ms = 0 := by
  rw [sumUnder, filter_desc_of_notMem h]
  rfl

end Modifier

namespace Bucket

open Modifier

/-! ## Entries by their descriptions -/

/-- One entry for each description, in the order of their first uses, with all that stands under it. -/
def gathered (ms : List Modifier) : List Modifier :=
  (ms.map (·.desc)).eraseDups.map fun desc => ⟨sumUnder desc ms, desc⟩

theorem descs_gathered (ms : List Modifier) : (gathered ms).map (·.desc) = (ms.map (·.desc)).eraseDups := by
  simp [gathered, Function.comp_def]

/-- Only a new description makes a new entry. -/
theorem eraseDups_concat (descs : List String) (desc : String) : (descs ++ [desc]).eraseDups =
    if desc ∈ descs then descs.eraseDups else descs.eraseDups ++ [desc] := by
  rw [List.eraseDups_append]
  split
  · rename_i h
    have hnone : [desc].removeAll descs = [] := by simpa [List.removeAll] using h
    rw [hnone, List.eraseDups_nil, List.append_nil]
  · rename_i h
    have hnew : [desc].removeAll descs = [desc] := by simpa [List.removeAll] using h
    rw [hnew]
    rfl

/-- One more modifier goes into the entry with its description, or behind all others when there is none. -/
theorem merge_gathered (m : Modifier) {ms : List Modifier} (h : ((gathered ms).map (·.desc)).Nodup) :
    merge m (gathered ms) = gathered (ms ++ [m]) := by
  have hmem : m.desc ∈ (gathered ms).map (·.desc) ↔ m.desc ∈ ms.map (·.desc) := by
    rw [descs_gathered, List.mem_eraseDups]
  have hdescs : ((ms ++ [m]).map (·.desc)).eraseDups = if m.desc ∈ ms.map (·.desc)
      then (ms.map (·.desc)).eraseDups else (ms.map (·.desc)).eraseDups ++ [m.desc] := by
    rw [List.map_append]
    exact eraseDups_concat _ _
  by_cases hm : m.desc ∈ ms.map (·.desc)
  · rw [if_pos hm] at hdescs
    rw [merge_of_mem h (hmem.2 hm), gathered, gathered, hdescs, List.map_map]
    refine List.map_congr_left fun desc _ => ?_
    by_cases hdesc : desc = m.desc
    · simp [sumUnder_concat, hdesc]
    · simp [sumUnder_concat, hdesc, Ne.symm hdesc]
  · rw [if_neg hm] at hdescs
    have hothers : ∀ desc ∈ (ms.map (·.desc)).eraseDups, sumUnder desc (ms ++ [m]) = sumUnder desc ms := by
      intro desc hdesc
      have hne : m.desc ≠ desc := by
        rintro rfl
        exact hm (List.mem_eraseDups.1 hdesc)
      rw [sumUnder_concat, if_neg hne]
    have hfirst : sumUnder m.desc (ms ++ [m]) = m.amount := by
      rw [sumUnder_concat, if_pos rfl, sumUnder_of_notMem hm, Amount.zero_add]
    rw [merge_of_notMem (mt hmem.1 hm), gathered, gathered, hdescs, List.map_append, List.map_singleton, hfirst]
    congr 1
    exact List.map_congr_left fun desc hdesc => by rw [hothers desc hdesc]

/-- What is merged one after another is gathered. -/
theorem foldl_merge_eq_gathered (ms : List Modifier) :
    ms.foldl (fun kept m => merge m kept) [] = gathered ms := by
  induction ms using List.reverseRecOn with
  | nil => rfl
  | append_singleton ms m ih =>
    have hnodup : ((ms.foldl (fun kept m => merge m kept) []).map (·.desc)).Nodup :=
      nodup_foldl_merge ms List.nodup_nil
    rw [ih] at hnodup
    rw [List.foldl_concat, ih, merge_gathered m hnodup]

/-! ## Adding and restoring -/

/-- Every addition takes the sum anew, so that only the last one counts. -/
theorem addAll_ofEntries (es ms : List Modifier) :
    (ofEntries es).addAll ms = ofEntries (ms.foldl (fun kept m => merge m kept) es) := by
  induction ms generalizing es with
  | nil => rfl
  | cons m ms ih => exact ih (merge m es)

/-- Restoring is replaying. Whatever a bucket holds, restoring a snapshot makes it the bucket that is cleared
and takes up the entries of the snapshot one by one: one entry for each description, in the order of their
first uses, with the amounts under it added from left to right, and the sum of these entries. Neither what
was there before nor the stored sum counts. A bucket that operations can reach is restored from its own
snapshot without any change. -/
theorem restore_eq_replay (b : Bucket) (s : Snapshot) :
    b.restore s = b.clear.addAll s.entries ∧
    (b.restore s).entries = gathered s.entries ∧
    (b.restore s).sum = Amount.sum ((gathered s.entries).map (·.amount)) ∧
    (∀ (other : Bucket) (sum : Amount), other.restore ⟨s.entries, sum⟩ = b.restore s) ∧
    ∀ operations : List Operation,
      let kept := empty.afterAll operations
      kept.restore kept.snapshot = kept := by
  have hrestore : b.restore s = ofEntries (gathered s.entries) := by
    rw [restore, foldl_merge_eq_gathered]
  refine ⟨(addAll_ofEntries [] s.entries).symm, ?_, ?_, fun other sum => rfl, fun operations => ?_⟩
  · rw [hrestore]
    rfl
  · rw [hrestore]
    rfl
  · exact (wellFormed_empty.afterAll operations).restore_snapshot _

/-- Repeated descriptions go into their first entries, and amounts are stopped at the limits in between. -/
example : (empty.restore ⟨[⟨2147483647, "aim"⟩, ⟨1, "cover"⟩, ⟨2, "aim"⟩, ⟨.clamp (-5), "aim"⟩], 7⟩).entries =
    [⟨2147483642, "aim"⟩, ⟨1, "cover"⟩] := by decide

end Bucket

end Rollmark
