/-
The place for a bucket: whatever snapshot was kept is loaded again, from memory as well as from the
text of a file.
-/
import Rollmark.Session.Store
import Rollmark.Proofs.Bucket.Merge
import Rollmark.Proofs.Json.Fields
import Rollmark.Proofs.Json.RoundTrip

namespace Rollmark

open Json

/-! ## Snapshots as JSON -/

/-- The JSON object of a modifier is read as that modifier. -/
theorem Modifier.ofJson?_toJson (m : Modifier) : ofJson? m.toJson = some m := by
  have hfields : m.toJson.fields? false ["mod", "desc"] =
      some [("mod", .integer m.amount.val), ("desc", .string m.desc)] := rfl
  unfold ofJson?
  rw [hfields]
  simp [Fields.required, List.lookup_cons, amount?_val, text?]

theorem Modifier.isWhole_toJson (m : Modifier) : m.toJson.all isWhole = true := rfl

namespace Bucket.Snapshot

/-- The JSON object of a snapshot is read as that snapshot. -/
theorem ofJson?_toJson (s : Snapshot) : ofJson? s.toJson = some s := by
  have hfields : s.toJson.fields? false ["modifierList", "currentSum"] = some
      [("modifierList", .array (s.entries.map Modifier.toJson)), ("currentSum", .integer s.sum.val)] := rfl
  unfold ofJson?
  rw [hfields]
  simp [Fields.orElse, List.lookup_cons, amount?_val, list?_map Modifier.ofJson?_toJson]

theorem isWhole_toJson (s : Snapshot) : s.toJson.all isWhole = true := by
  refine all_object fun m hm => ?_
  rcases List.mem_cons.1 hm with rfl | hm
  · exact all_array_map Modifier.isWhole_toJson s.entries
  · rw [List.mem_singleton.1 hm]
    rfl

end Bucket.Snapshot

/-! ## Files -/

namespace Store

/-- The bytes of a snapshot are read as that snapshot. -/
theorem ofBytes_fileBytes (s : Bucket.Snapshot) : ofBytes (fileBytes s) = .ok (some s) := by
  have hfile : Text.ofFile? (fileBytes s) = some s.toJson.pretty := ofFile?_pretty _
  have hblank : (Text.trim s.toJson.pretty.toList).isEmpty = false := by
    obtain ⟨cs, hcs⟩ : ∃ cs, s.toJson.pretty = String.ofList ('\x7b' :: cs) := pretty_object _
    rw [hcs, String.toList_ofList]
    exact Text.isEmpty_trim (by decide) cs
  have hparse : (parse? s.toJson.pretty).bind Bucket.Snapshot.ofJson? = some s := by
    rw [parse?_pretty _ s.isWhole_toJson, Option.bind_some, s.ofJson?_toJson]
  unfold ofBytes
  simp only [hfile, hblank, hparse, Bool.false_eq_true, if_false]

/-! ## Working places -/

section Saved

variable {snapshot : Bucket.Snapshot} {s s' : Store}

/-- What is saved is what is loaded afterwards. -/
theorem load_of_save (h : s.save snapshot = .ok s') : s'.load = .ok (some snapshot) := by
  cases s with
  | broken => cases h
  | memory saved => cases h; rfl
  | file bytes writable =>
    cases writable with
    | false => cases h
    | true =>
      cases h
      exact ofBytes_fileBytes snapshot

/-- What is saved can be saved over. -/
theorem save_of_save (h : s.save snapshot = .ok s') (next : Bucket.Snapshot) :
    ∃ s'', s'.save next = .ok s'' := by
  cases s with
  | broken => cases h
  | memory saved => cases h; exact ⟨_, rfl⟩
  | file bytes writable =>
    cases writable with
    | false => cases h
    | true => cases h; exact ⟨_, rfl⟩

end Saved

/-- A place that can be loaded and that takes every snapshot. -/
structure Works (s : Store) : Prop where
  load : ∃ saved, s.load = .ok saved
  save : ∀ snapshot, ∃ s', s.save snapshot = .ok s'

/-- A place that works goes on working, and what was kept last is in it. -/
theorem Works.keep {s : Store} (h : s.Works) (snapshot : Bucket.Snapshot) :
    (Store.keep snapshot s).Works ∧ (Store.keep snapshot s).load = .ok (some snapshot) := by
  obtain ⟨s', hsave⟩ := h.save snapshot
  have hkeep : Store.keep snapshot s = s' := by
    unfold Store.keep
    rw [hsave]
  have hload := load_of_save hsave
  rw [hkeep]
  exact ⟨⟨⟨_, hload⟩, save_of_save hsave⟩, hload⟩

end Store

/-! ## Restoring -/

/-- The bucket that is restored from what a place holds. -/
def Bucket.ofSaved : Option Bucket.Snapshot → Bucket
  | some snapshot => Bucket.empty.restore snapshot
  | none => .empty

theorem Bucket.wellFormed_ofSaved (saved : Option Bucket.Snapshot) : (Bucket.ofSaved saved).WellFormed := by
  cases saved with
  | none => exact Bucket.wellFormed_empty
  | some snapshot => exact Bucket.wellFormed_restore Bucket.empty snapshot

end Rollmark
