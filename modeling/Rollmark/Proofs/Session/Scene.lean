/-
Scenes: a session and the character that plays in it. A script is a list of moves, each of them made
with the character or with the character hidden. What is seen of a move is its answer, and the bucket,
the character and the table after it.

The place that keeps the bucket is not seen. Taking it away commutes with every move: a move saves to
the place, and never asks whether that was possible. So whole scripts are seen alike without a place,
with one that is broken and with one that is empty in the beginning.
-/
import Rollmark.Session

namespace Rollmark

/-- A session and the character that plays in it, if there is one. -/
structure Scene where
  session : Session
  character : Option Sheet

/-- What can be done in a scene. -/
inductive Move where
  | add (m : Modifier)
  | setRange (amount : Amount)
  | remove (index : Nat)
  | clear
  | activate (a : Action) (visibility : Option Visibility) (hidden : Bool)
  | activateText (text : String) (visibility : Option Visibility) (hidden : Bool)

/-- What is seen of a move. Only activations have an answer. -/
structure Sight where
  answer : Option (Except Error Activation)
  bucket : Bucket
  character : Option Sheet
  table : Table

namespace Scene

/-- The character for an activation. -/
def actor (c : Scene) (hidden : Bool) : Option Sheet := if hidden then none else c.character

/-- The answer of an activation and the scene after it; a hidden character stays as it is. -/
def after (c : Scene) (hidden : Bool) (turn : Turn) : Option (Except Error Activation) × Scene :=
  (some turn.result, ⟨turn.session, if hidden then c.character else turn.actor⟩)

/-- The answer of a move and the scene after it. -/
def move (c : Scene) : Move → Option (Except Error Activation) × Scene
  | .add m => (none, { c with session := c.session.addModifier m })
  | .setRange amount => (none, { c with session := c.session.setRange amount })
  | .remove index => (none, { c with session := c.session.removeModifier index })
  | .clear => (none, { c with session := c.session.clearModifiers })
  | .activate a visibility hidden =>
    c.after hidden (c.session.activate a (c.actor hidden) visibility)
  | .activateText text visibility hidden =>
    c.after hidden (c.session.activateText text (c.actor hidden) visibility)

/-- What is seen of a scene with an answer. -/
def sight (c : Scene) (answer : Option (Except Error Activation)) : Sight :=
  ⟨answer, c.session.bucket, c.character, c.session.table⟩

/-- What is seen of the moves of a script, one after the other. -/
def trace (c : Scene) : List Move → List Sight
  | [] => []
  | x :: moves =>
    let (answer, c') := c.move x
    c'.sight answer :: c'.trace moves

end Scene

/-! ## Taking the place away -/

/-- A session whose bucket is kept nowhere. -/
def Session.withoutStore (s : Session) : Session := { s with store := none }

/-- A turn whose bucket is kept nowhere afterwards. -/
def Turn.withoutStore (turn : Turn) : Turn := { turn with session := turn.session.withoutStore }

/-- A scene whose bucket is kept nowhere. -/
def Scene.withoutStore (c : Scene) : Scene := { c with session := c.session.withoutStore }

namespace Session

/-- Attaching a place from which nothing is loaded changes nothing but the place. -/
theorem withoutStore_withStore {s : Session} {store : Store}
    (h : ∀ snapshot, store.load ≠ .ok (some snapshot)) :
    (s.withStore store).withoutStore = s.withoutStore := by
  unfold withStore
  split
  · rename_i snapshot hload
    exact absurd hload (h snapshot)
  · rfl

theorem removeModifier_withoutStore (s : Session) (index : Nat) :
    s.withoutStore.removeModifier index = (s.removeModifier index).withoutStore := by
  unfold removeModifier
  dsimp only [withoutStore]
  split <;> rfl

section Activations

variable (s : Session) (actor : Option Sheet)

theorem roll_withoutStore (request : RollRequest) :
    s.withoutStore.roll actor request = (s.roll actor request).withoutStore := by
  unfold roll
  dsimp only [withoutStore]
  rcases resolve request s.bucket s.dice with ⟨_ | report, bucket, dice⟩ <;> rfl

theorem activate_withoutStore (a : Action) (visibility : Option Visibility) :
    s.withoutStore.activate a actor visibility = (s.activate a actor visibility).withoutStore := by
  unfold activate
  dsimp only [withoutStore]
  rcases dispatch s.settings actor a s.bucket with ⟨_ | intent, bucket⟩
  · rfl
  · cases intent with
    | roll request => exact roll_withoutStore { s with bucket } actor (asked visibility request)
    | _ => rfl

theorem activateText_withoutStore (text : String) (visibility : Option Visibility) :
    s.withoutStore.activateText text actor visibility =
      (s.activateText text actor visibility).withoutStore := by
  unfold activateText
  dsimp only [withoutStore]
  split
  · exact activate_withoutStore s actor _ visibility
  · rfl

end Activations

end Session

namespace Scene

/-- A move without a place answers what it answers with one, and leaves the same scene behind. -/
theorem move_withoutStore (c : Scene) (x : Move) :
    c.withoutStore.move x = ((c.move x).1, (c.move x).2.withoutStore) := by
  cases x with
  | add m | setRange amount | clear => rfl
  | remove index =>
    show (none, _) = (none, _)
    rw [withoutStore, Session.removeModifier_withoutStore]
    rfl
  | activate a visibility hidden =>
    show after _ hidden _ = _
    rw [withoutStore, Session.activate_withoutStore]
    rfl
  | activateText text visibility hidden =>
    show after _ hidden _ = _
    rw [withoutStore, Session.activateText_withoutStore]
    rfl

/-- Every script is seen alike with a place and without one. -/
theorem trace_withoutStore (c : Scene) (moves : List Move) : c.withoutStore.trace moves = c.trace moves := by
  induction moves generalizing c with
  | nil => rfl
  | cons x moves ih =>
    -- the scene after the first move is general, so its place is taken away like the first one's
    rw [trace, trace, move_withoutStore]
    dsimp only
    rw [ih]
    rfl

/-- A place from which nothing is loaded in the beginning is not seen, whether it can be saved to or
not. -/
theorem trace_withStore_of_load {store : Store} (h : ∀ snapshot, store.load ≠ .ok (some snapshot))
    (s : Session) (character : Option Sheet) (moves : List Move) :
    (⟨s.withStore store, character⟩ : Scene).trace moves =
      (⟨s.withoutStore, character⟩ : Scene).trace moves := by
  rw [← trace_withoutStore ⟨s.withStore store, character⟩, withoutStore,
    Session.withoutStore_withStore h]

/-- Without a place for the bucket, with a broken one and with an empty one every script is seen alike:
the same answers, buckets, characters and tables, move by move. -/
theorem trace_withStore (s : Session) (character : Option Sheet) (moves : List Move) :
    (⟨s.withStore .broken, character⟩ : Scene).trace moves =
        (⟨s.withoutStore, character⟩ : Scene).trace moves ∧
      (⟨s.withStore (.memory none), character⟩ : Scene).trace moves =
        (⟨s.withoutStore, character⟩ : Scene).trace moves := by
  constructor
  · exact trace_withStore_of_load (by rintro snapshot ⟨⟩) s character moves
  · exact trace_withStore_of_load (by rintro snapshot ⟨⟩) s character moves

end Scene

end Rollmark
