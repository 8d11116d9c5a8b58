/-
Keeping the bucket: in a session with a place that works, the bucket is at all times the one that
would be restored from that place, whatever the place held when it was attached.
-/
import Rollmark.Proofs.Session.Run
import Rollmark.Proofs.Session.Store

namespace Rollmark

namespace Session

/-- The bucket of a session can be restored from its place. -/
structure Restorable (s : Session) : Prop where
  wellFormed : s.bucket.WellFormed
  place : ∃ store saved, s.store = some store ∧ store.Works ∧ store.load = .ok saved ∧
    Bucket.ofSaved saved = s.bucket

/-- A session that has just been given a place has taken over what is in it. -/
theorem restorable_withStore {s : Session} {store : Store} (hs : s.bucket = .empty) (h : store.Works) :
    Restorable (s.withStore store) := by
  obtain ⟨saved, hload⟩ := h.load
  have hbucket : (s.withStore store).bucket = Bucket.ofSaved saved := by
    unfold withStore
    rw [hload]
    cases saved with
    | none => exact hs
    | some snapshot => rfl
  have hstore : (s.withStore store).store = some store := by
    unfold withStore
    rw [hload]
    cases saved <;> rfl
  refine ⟨?_, store, saved, hstore, h, hload, hbucket.symm⟩
  rw [hbucket]
  exact Bucket.wellFormed_ofSaved saved

section Steps

variable {s : Session} (h : Restorable s)
include h

/-- A step leaves bucket and place alone, or the place holds the bucket that it leaves behind. -/
theorem Restorable.kept (x : Step) : (s.step x).bucket = s.bucket ∧ (s.step x).store = s.store ∨
    ∃ store, (s.step x).store = some store ∧ store.Works ∧
      store.load = .ok (some (s.step x).bucket.snapshot) := by
  obtain ⟨store, saved, hstore, hworks, -, -⟩ := h.place
  rcases touches_step h.wellFormed x with ⟨hbucket, hsame⟩ | ⟨-, hkept⟩
  · exact .inl ⟨hbucket, hsame⟩
  · rw [hstore, Option.map_some] at hkept
    obtain ⟨hworks', hload⟩ := hworks.keep (s.step x).bucket.snapshot
    exact .inr ⟨_, hkept, hworks', hload⟩

theorem Restorable.step (x : Step) : Restorable (s.step x) := by
  have hwf := wellFormed_step h.wellFormed x
  refine ⟨hwf, ?_⟩
  rcases h.kept x with ⟨hbucket, hsame⟩ | ⟨store, hstore, hworks, hload⟩
  · rw [hbucket, hsame]
    exact h.place
  · exact ⟨store, _, hstore, hworks, hload, hwf.restore_snapshot Bucket.empty⟩

end Steps

/-- In a session that was given a place that works, the bucket is at all times the one that is
restored from the place, and a step that changes the bucket leaves its snapshot there. -/
theorem restorable_run {store : Store} (h : store.Works) (settings : Settings) (dice : Dice) (table : Table)
    (steps : List Step) :
    let s := (({ settings, dice, table } : Session).withStore store).run steps
    (∃ place saved, s.store = some place ∧ place.load = .ok saved ∧ Bucket.ofSaved saved = s.bucket) ∧
      ∀ x, (s.step x).bucket ≠ s.bucket → ∃ place, (s.step x).store = some place ∧
        place.load = .ok (some (s.step x).bucket.snapshot) := by
  intro s
  have hs : Restorable s := run_keeps (fun _ x h => h.step x) (restorable_withStore rfl h) steps
  obtain ⟨place, saved, hplace, -, hload, hbucket⟩ := hs.place
  refine ⟨⟨place, saved, hplace, hload, hbucket⟩, fun x hx => ?_⟩
  rcases hs.kept x with ⟨hsame, -⟩ | ⟨place', hplace', -, hload'⟩
  · exact absurd hsame hx
  · exact ⟨place', hplace', hload'⟩

/-- A place with a repeated description and a wrong sum. -/
theorem restorable_run_repeated :
    let store : Store := .memory (some ⟨[⟨2, "aim"⟩, ⟨1, "aim"⟩], 7⟩)
    let s := (({ settings := {}, dice := .ofFaces [1] } : Session).withStore store).run
      [.remove 9, .add ⟨1, "cover"⟩]
    store.Works ∧ s.bucket.entries = [⟨3, "aim"⟩, ⟨1, "cover"⟩] ∧ ∃ place saved, s.store = some place ∧
      place.load = .ok saved ∧ Bucket.ofSaved saved = s.bucket := by
  have hworks : Store.Works (.memory (some ⟨[⟨2, "aim"⟩, ⟨1, "aim"⟩], 7⟩)) :=
    ⟨⟨_, rfl⟩, fun _ => ⟨_, rfl⟩⟩
  exact ⟨hworks, by decide, (restorable_run hworks {} (.ofFaces [1]) {} [.remove 9, .add ⟨1, "cover"⟩]).1⟩

end Session

end Rollmark
