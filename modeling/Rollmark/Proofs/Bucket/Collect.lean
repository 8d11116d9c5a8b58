/-
Collecting modifiers: what an empty bucket holds after some modifiers were added one after another.

As long as their absolute values together are within the limits, no amount is stopped on the way. Then the
entry under a description has the sum of all that was added under it, and the order of the additions decides
nothing but the order of the entries.
-/
import Mathlib.Algebra.BigOperators.Group.List.Basic
import Mathlib.Data.List.Nodup
import Rollmark.Proofs.Bucket.Balance
import Rollmark.Proofs.Bucket.Merge

namespace Rollmark

namespace Modifier

theorem weight_cons (m : Modifier) (ms : List Modifier) :
    weight (m :: ms) = m.amount.val.natAbs + weight ms := by
  rw [weight, List.map_cons, List.sum_cons]
  rfl

theorem under_of_perm {ms ms' : List Modifier} (h : ms.Perm ms') (desc : String) :
    under desc ms = under desc ms' := by
  have hamounts := (h.filter fun m : Modifier => m.desc = desc).map (·.amount.val)
  exact hamounts.sum_eq

theorem filter_desc_of_notMem {desc : String} {ms : List Modifier} (h : desc ∉ ms.map (·.desc)) :
    ms.filter (fun m => m.desc = desc) = [] := by
  rw [List.filter_eq_nil_iff]
  intro m hm hdesc
  exact h (List.mem_map.2 ⟨m, hm, of_decide_eq_true hdesc⟩)

theorem under_of_notMem {desc : String} {ms : List Modifier} (h : desc ∉ ms.map (·.desc)) :
    under desc ms = 0 := by
  rw [under, filter_desc_of_notMem h]
  rfl

/-- Where every description stands once, an entry is known by its description and what is under it. -/
theorem mem_iff_of_nodup {ms : List Modifier} (h : (ms.map (·.desc)).Nodup) (m : Modifier) :
    m ∈ ms ↔ m.desc ∈ ms.map (·.desc) ∧ m.amount.val = under m.desc ms := by
  induction ms with
  | nil => simp
  | cons e es ih =>
    rw [List.map_cons, List.nodup_cons] at h
    obtain ⟨hfresh, hrest⟩ := h
    rw [List.map_cons, List.mem_cons, List.mem_cons, under_cons, ih hrest]
    by_cases hdesc : e.desc = m.desc
    · rw [hdesc] at hfresh
      have hsame : m = e ↔ m.amount.val = e.amount.val := by
        obtain ⟨amount, desc⟩ := m
        obtain ⟨amount', desc'⟩ := e
        rw [Modifier.mk.injEq, Amount.eq_iff]
        exact and_iff_left hdesc.symm
      rw [if_pos hdesc, under_of_notMem hfresh, Int.add_zero, hsame]
      simp [hdesc, hfresh]
    · have hne : m ≠ e := fun hm => hdesc (congrArg Modifier.desc hm).symm
      rw [if_neg hdesc, Int.zero_add]
      simp [hne, Ne.symm hdesc]

end Modifier

namespace Bucket

open Modifier

/-- Adds modifiers one after another. -/
def addAll (b : Bucket) (ms : List Modifier) : Bucket := ms.foldl add b

/-! ## One more modifier -/

theorem mem_descs_merge (m : Modifier) (es : List Modifier) (desc : String) :
    desc ∈ (merge m es).map (·.desc) ↔ desc ∈ es.map (·.desc) ∨ desc = m.desc := by
  by_cases hm : m.desc ∈ es.map (·.desc)
  · rw [descs_merge_of_mem hm]
    refine ⟨.inl, ?_⟩
    rintro (hdesc | rfl)
    · exact hdesc
    · exact hm
  · rw [merge_of_notMem hm, List.map_append, List.mem_append, List.map_singleton, List.mem_singleton]

/-- An amount that is stopped at a limit weighs less. -/
theorem weight_merge_le (m : Modifier) (es : List Modifier) :
    weight (merge m es) ≤ weight es + m.amount.val.natAbs := by
  induction es with
  | nil => exact Nat.le_of_eq (Nat.add_comm _ _)
  | cons e es ih =>
    rw [merge]
    split
    · have hsum : (e.amount + m.amount).val =
          max (-2147483648) (min (e.amount.val + m.amount.val) 2147483647) := rfl
      rw [weight_cons, weight_cons]
      dsimp only
      omega
    · rw [weight_cons, weight_cons]
      omega

theorem within_weight (es : List Modifier) : Within (weight es) es := by
  induction es with
  | nil => rintro e ⟨⟩
  | cons e es ih =>
    rw [weight_cons]
    intro e' he'
    rcases List.mem_cons.1 he' with rfl | he'
    · exact Nat.le_add_right _ _
    · exact Nat.le_trans (ih e' he') (Nat.le_add_left _ _)

/-! ## All modifiers -/

/-- The entries into which some modifiers were merged without being stopped at a limit. -/
structure Collects (ms es : List Modifier) : Prop where
  nodup : (es.map (·.desc)).Nodup
  descs : ∀ desc, desc ∈ es.map (·.desc) ↔ desc ∈ ms.map (·.desc)
  under : ∀ desc, under desc es = under desc ms
  weight : weight es ≤ weight ms

theorem collects_nil : Collects [] [] := ⟨List.nodup_nil, fun _ => Iff.rfl, fun _ => rfl, Nat.le_refl _⟩

theorem Collects.merge {ms es : List Modifier} (h : Collects ms es) {m : Modifier}
    (hlimit : Modifier.weight (ms ++ [m]) ≤ 2147483647) : Collects (ms ++ [m]) (merge m es) := by
  have hweight := h.weight
  have hlong : Modifier.weight (ms ++ [m]) = Modifier.weight ms + m.amount.val.natAbs := by
    rw [weight_append, weight_cons]
    rfl
  refine ⟨nodup_merge m h.nodup, fun desc => ?_, fun desc => ?_, ?_⟩
  · rw [mem_descs_merge, h.descs, List.map_append, List.mem_append, List.map_singleton,
      List.mem_singleton]
  · rw [under_merge (within_weight es) (by omega), h.under, under_append]
  · have hmerge := weight_merge_le m es
    omega

theorem Collects.addAll {ms : List Modifier} {b : Bucket} (h : Collects ms b.entries)
    {more : List Modifier} (hlimit : Modifier.weight (ms ++ more) ≤ 2147483647) :
    Collects (ms ++ more) (b.addAll more).entries := by
  -- what was added before is general, as every step takes up one more modifier
  induction more generalizing ms b with
  | nil =>
    rw [List.append_nil]
    exact h
  | cons m more ih =>
    rw [List.append_cons] at hlimit ⊢
    have hfirst : Modifier.weight (ms ++ [m]) ≤ 2147483647 := by
      rw [weight_append] at hlimit
      omega
    exact ih (b := b.add m) (h.merge hfirst) hlimit

/-- The entries of an empty bucket to which some modifiers were added. -/
theorem collects_addAll {ms : List Modifier} (hlimit : Modifier.weight ms ≤ 2147483647) :
    Collects ms (empty.addAll ms).entries := @Collects.addAll [] empty collects_nil ms hlimit

/-- The same modifiers in another order make the same entries in some order. -/
theorem Collects.perm {ms ms' es es' : List Modifier} (h : Collects ms es) (h' : Collects ms' es')
    (hperm : ms.Perm ms') : es.Perm es' := by
  rw [List.perm_ext_iff_of_nodup (.of_map _ h.nodup) (.of_map _ h'.nodup)]
  intro e
  rw [mem_iff_of_nodup h.nodup, mem_iff_of_nodup h'.nodup, h.descs, h'.descs, h.under, h'.under,
    under_of_perm hperm, (hperm.map (·.desc)).mem_iff]

end Bucket

end Rollmark
