/-
Files: what is written at a path is what stands there afterwards, and it can be written over.
-/
import Rollmark.Command.Files

namespace Rollmark.Files

theorem lookup_put (place : FilePlace) (state : FileState) (entries : List (FilePlace × FileState)) :
    (put place state entries).lookup place = some state := by
  induction entries with
  | nil => simp [put]
  | cons entry entries ih =>
    obtain ⟨other, old⟩ := entry
    rw [put]
    by_cases h : other = place
    · simp [h]
    · have hne : (place == other) = false := by simpa using Ne.symm h
      rw [if_neg h, List.lookup_cons, hne]
      exact ih

section Write

variable {files files' : Files} {path : String} {content : List UInt8}

/-- No file can be written at a path that leads to a folder. -/
theorem leadsToFolder_of_canWrite (h : files.canWrite path = true) : leadsToFolder path = false := by
  cases hfolder : leadsToFolder path with
  | false => rfl
  | true =>
    -- neither a listed nor an unlisted state can be written there
    unfold canWrite state at h
    generalize (files.entries.lookup (.ofPath path)).getD (files.unlisted (.ofPath path)) = found at h
    rw [hfolder] at h
    cases found <;> simp at h

theorem write?_of_canWrite (h : files.canWrite path = true) (content : List UInt8) :
    ∃ files', files.write? path content = some files' := by
  rw [write?, if_pos h]
  exact ⟨_, rfl⟩

/-- What was written stands there. -/
theorem state_of_write? (h : files.write? path content = some files') :
    files'.state path = .bytes content true := by
  rw [write?] at h
  split at h
  · rename_i hwrite
    cases h
    have hfile := leadsToFolder_of_canWrite hwrite
    unfold state
    rw [lookup_put]
    simp [hfile]
  · cases h

end Write

end Rollmark.Files
