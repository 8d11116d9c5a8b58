/-
Runs of a session: any steps in any order, each with a character of its own. A step either leaves
bucket and store alone or keeps the bucket that it leaves behind, and no step breaks the bucket.
-/
import Rollmark.Proofs.Bucket.Merge
import Rollmark.Proofs.Session.Effect

namespace Rollmark

/-- What can be done with a session. -/
inductive Step where
  | add (m : Modifier)
  | setRange (amount : Amount)
  | remove (index : Nat)
  | clear
  | activate (a : Action) (actor : Option Sheet) (visibility : Option Visibility)
  | activateText (text : String) (actor : Option Sheet) (visibility : Option Visibility)

namespace Session

/-- The session after a step. -/
def step (s : Session) : Step → Session
  | .add m => s.addModifier m
  | .setRange amount => s.setRange amount
  | .remove index => s.removeModifier index
  | .clear => s.clearModifiers
  | .activate a actor visibility => (s.activate a actor visibility).session
  | .activateText text actor visibility => (s.activateText text actor visibility).session

/-- The session after some steps. -/
def run (s : Session) (steps : List Step) : Session := steps.foldl step s

theorem run_cons (s : Session) (x : Step) (steps : List Step) : s.run (x :: steps) = (s.step x).run steps := rfl

/-- What every step keeps up holds after every run. -/
theorem run_keeps {P : Session → Prop} (hstep : ∀ s x, P s → P (s.step x)) {s : Session} (hs : P s)
    (steps : List Step) : P (s.run steps) := by
  induction steps generalizing s with
  | nil => exact hs
  | cons x steps ih =>
    rw [run_cons]
    exact ih (hstep s x hs)

/-! ## What a step does to bucket and store -/

/-- A step leaves bucket and store alone, or it leaves a well-formed bucket and keeps it. -/
inductive Touches (s s' : Session) : Prop where
  | nothing (hbucket : s'.bucket = s.bucket) (hstore : s'.store = s.store)
  | bucket (hwf : s'.bucket.WellFormed) (hstore : s'.store = s.store.map (Store.keep s'.bucket.snapshot))

section Touched

variable {s : Session} (h : s.bucket.WellFormed)
include h

theorem touches_effect {a : Action} {actor : Option Sheet} {visibility : Option Visibility} {turn : Turn}
    (he : Effect s a actor visibility turn) : Touches s turn.session := by
  cases he with
  | refused | unreadable | damage | reference | nothing => exact .nothing rfl rfl
  | rolled => exact .bucket Bucket.wellFormed_empty rfl
  | modifier => exact .bucket (h.add _) rfl

theorem touches_remove (index : Nat) : Touches s (s.removeModifier index) := by
  unfold removeModifier
  rcases hi : s.bucket.entries[index]? with _ | m
  · -- nothing is kept here, so the bucket has to be what it was, its sum included
    have hremoved : (s.bucket.remove index).1 = none := hi
    dsimp only
    rw [hremoved]
    exact .nothing (h.remove_none hi) rfl
  · have hremoved : (s.bucket.remove index).1 = some m := hi
    dsimp only
    rw [hremoved]
    exact .bucket (h.remove index) rfl

theorem touches_step (x : Step) : Touches s (s.step x) := by
  cases x with
  | add m => exact .bucket (h.add m) rfl
  | setRange amount => exact .bucket (h.setRange amount) rfl
  | remove index => exact touches_remove h index
  | clear => exact .bucket (Bucket.wellFormed_clear s.bucket) rfl
  | activate a actor visibility => exact touches_effect h (s.activate_effect a actor visibility)
  | activateText text actor visibility =>
    rw [step]
    cases ha : s.parsed? text with
    | none =>
      rw [activateText_of_none ha]
      exact .nothing rfl rfl
    | some a =>
      rw [activateText_of_some ha]
      exact touches_effect h (s.activate_effect a actor visibility)

/-- Every step keeps the bucket well-formed. -/
theorem wellFormed_step (x : Step) : (s.step x).bucket.WellFormed := by
  rcases touches_step h x with ⟨hbucket, -⟩ | ⟨hwf, -⟩
  · rw [hbucket]
    exact h
  · exact hwf

end Touched

end Session

end Rollmark
