/-
Buckets that steps can reach: every description stands once, and the sum is that of the entries.
Every operation on a bucket keeps this up, and such a bucket is restored from its own snapshot.
-/
import Rollmark.Bucket

namespace Rollmark.Bucket

/-! ## Merging -/

/-- A modifier with a new description goes to the end. -/
theorem merge_of_notMem {m : Modifier} {es : List Modifier} (h : m.desc ∉ es.map (·.desc)) :
    merge m es = es ++ [m] := by
  induction es with
  | nil => rfl
  | cons e es ih =>
    rw [List.map_cons, List.mem_cons, not_or] at h
    obtain ⟨hne, hrest⟩ := h
    rw [merge, if_neg (Ne.symm hne), ih hrest]
    rfl

/-- A modifier with a description that is there already leaves the descriptions as they are. -/
theorem descs_merge_of_mem {m : Modifier} {es : List Modifier} (h : m.desc ∈ es.map (·.desc)) :
    (merge m es).map (·.desc) = es.map (·.desc) := by
  induction es with
  | nil => cases h
  | cons e es ih =>
    rw [merge]
    by_cases he : e.desc = m.desc
    · rw [if_pos he]
      rfl
    · rw [if_neg he, List.map_cons, List.map_cons]
      rw [List.map_cons, List.mem_cons] at h
      rw [ih (h.resolve_left (Ne.symm he))]

theorem nodup_merge (m : Modifier) {es : List Modifier} (h : (es.map (·.desc)).Nodup) :
    ((merge m es).map (·.desc)).Nodup := by
  by_cases hm : m.desc ∈ es.map (·.desc)
  · rw [descs_merge_of_mem hm]
    exact h
  · rw [merge_of_notMem hm, List.map_append]
    refine List.nodup_append.2 ⟨h, List.pairwise_singleton _ _, ?_⟩
    rintro d hd d' (_ | ⟨_, ⟨⟩⟩) rfl
    exact hm hd

/-- Modifiers with different descriptions are merged into themselves. -/
theorem foldl_merge_of_nodup {es kept : List Modifier} (h : ((kept ++ es).map (·.desc)).Nodup) :
    es.foldl (fun kept m => merge m kept) kept = kept ++ es := by
  induction es generalizing kept with
  | nil => rw [List.append_nil]; rfl
  | cons e es ih =>
    -- what was kept takes up one modifier after the other, so it is general
    rw [List.append_cons] at h
    have hnew : e.desc ∉ kept.map (·.desc) := by
      intro hmem
      rw [List.map_append, List.map_append] at h
      exact (List.nodup_append.1 (List.nodup_append.1 h).1).2.2 _ hmem _ List.mem_cons_self rfl
    rw [List.foldl_cons, merge_of_notMem hnew, ih h, List.append_cons kept e es]

theorem nodup_foldl_merge (es : List Modifier) {kept : List Modifier} (h : (kept.map (·.desc)).Nodup) :
    ((es.foldl (fun kept m => merge m kept) kept).map (·.desc)).Nodup := by
  induction es generalizing kept with
  | nil => exact h
  | cons e es ih => exact ih (nodup_merge e h)

/-! ## Well-formed buckets -/

/-- Every description stands once, and the sum is that of the entries. -/
structure WellFormed (b : Bucket) : Prop where
  nodup : (b.entries.map (·.desc)).Nodup
  sum : b.sum = Modifier.total b.entries

theorem wellFormed_ofEntries {es : List Modifier} (h : (es.map (·.desc)).Nodup) :
    (ofEntries es).WellFormed := ⟨h, rfl⟩

/-- A well-formed bucket is that of its entries. -/
theorem WellFormed.eq_ofEntries {b : Bucket} (h : b.WellFormed) : b = ofEntries b.entries := by
  obtain ⟨entries, sum⟩ := b
  rw [ofEntries, ← h.sum]

theorem wellFormed_empty : empty.WellFormed := wellFormed_ofEntries List.nodup_nil

section Operations

variable {b : Bucket} (h : b.WellFormed)
include h

theorem WellFormed.add (m : Modifier) : (b.add m).WellFormed :=
  wellFormed_ofEntries (nodup_merge m h.nodup)

theorem WellFormed.remove (index : Nat) : (b.remove index).2.WellFormed :=
  wellFormed_ofEntries (h.nodup.sublist ((List.eraseIdx_sublist _ _).map _))

theorem WellFormed.setRange (amount : Amount) : (b.setRange amount).WellFormed := by
  have hothers : (ofEntries (b.entries.filter fun e => e.desc ≠ rangeDesc)).WellFormed :=
    wellFormed_ofEntries (h.nodup.sublist (List.filter_sublist.map _))
  rw [Bucket.setRange]
  by_cases hzero : amount = 0
  · rw [if_pos hzero]
    exact hothers
  · rw [if_neg hzero]
    exact hothers.add _

/-- A position without an entry takes nothing out. -/
theorem WellFormed.remove_none {index : Nat} (hi : b.entries[index]? = none) :
    (b.remove index).2 = b := by
  rw [Bucket.remove, List.eraseIdx_of_length_le (List.getElem?_eq_none_iff.1 hi), ← h.eq_ofEntries]

end Operations

theorem wellFormed_clear (b : Bucket) : b.clear.WellFormed := wellFormed_ofEntries List.nodup_nil

/-! ## Restoring -/

/-- Whatever a snapshot holds, what is restored from it is well-formed. -/
theorem wellFormed_restore (b : Bucket) (s : Snapshot) : (b.restore s).WellFormed :=
  wellFormed_ofEntries (nodup_foldl_merge s.entries List.nodup_nil)

/-- A well-formed bucket is restored from its own snapshot. -/
theorem WellFormed.restore_snapshot {b : Bucket} (h : b.WellFormed) (before : Bucket) :
    before.restore b.snapshot = b := by
  rw [restore, snapshot, foldl_merge_of_nodup (by rw [List.nil_append]; exact h.nodup), List.nil_append,
    ← h.eq_ofEntries]

end Rollmark.Bucket
