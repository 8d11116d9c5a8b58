/-
The bucket in a file: a series of processes that show and edit it, each of which loads the bucket, edits it
and saves it again, keeps the bucket that the same operations leave in memory.

One process takes a file that holds a well-formed bucket to a file that holds the edited one, and a process
that fails does not write. The bucket of a file that does not exist is empty.
-/
import Rollmark.Command.Run
import Rollmark.Proofs.Bucket.Operations
import Rollmark.Proofs.Command.Arguments
import Rollmark.Proofs.Command.Files
import Rollmark.Proofs.Session.Store

namespace Rollmark

namespace BucketEdit

/-- What an edit does to a bucket in memory. -/
def operations : BucketEdit → List Bucket.Operation
  | .inspect => []
  | .add m => [.add m]
  | .remove index => [.remove index]
  | .clear => [.clear]

/-- An edit can be made unless it takes out an entry from a position that there is not. -/
def Possible (b : Bucket) : BucketEdit → Prop
  | .remove index => index < b.entries.length
  | .inspect | .add _ | .clear => True

end BucketEdit

/-- The lines that show or edit the bucket in a file, and the edit that they ask for. A position that cannot
be read asks for none. -/
inductive BucketLine (file : String) : List String → Option BucketEdit → Prop where
  | inspect : BucketLine file ["bucket", "--file", file, "show"] (some .inspect)
  | add (word : String) (amount : Amount) (words : List String) (h : Command.amount? word = some amount)
      (hwords : ∀ w ∈ words, Arguments.isDashed w.toList = false) :
    BucketLine file ("bucket" :: "--file" :: file :: "add" :: word :: words)
      (some (.add ⟨amount, " ".intercalate words⟩))
  /-- Behind two dashes the words may begin with dashes. -/
  | addPlain (word : String) (amount : Amount) (words more : List String)
      (h : Command.amount? word = some amount)
      (hwords : ∀ w ∈ words, Arguments.isDashed w.toList = false) :
    BucketLine file ("bucket" :: "--file" :: file :: "add" :: word :: (words ++ "--" :: more))
      (some (.add ⟨amount, " ".intercalate (words ++ more)⟩))
  | remove (word : String) :
    BucketLine file ["bucket", "--file", file, "remove", word]
      ((Command.naturalUpTo? Command.maxIndex word).map .remove)
  | clear : BucketLine file ["bucket", "--file", file, "clear"] (some .clear)

/-- One start of the program with a line of words for the bucket in a file. -/
structure BucketProcess (file : String) where
  /-- What dice would be seeded from. -/
  entropy : UInt64
  words : List String
  edit : Option BucketEdit
  line : BucketLine file words edit

namespace BucketProcess

variable {file : String}

def run (p : BucketProcess file) (files : Files) : CommandRun :=
  Command.runOrRefuse p.entropy files (Command.ofWords? p.words)

def runAll (processes : List (BucketProcess file)) (files : Files) : Files :=
  processes.foldl (fun files p => (p.run files).files) files

def operations (p : BucketProcess file) : List Bucket.Operation :=
  match p.edit with
  | some edit => edit.operations
  | none => []

theorem ofWords?_words (hname : file ≠ "") (hfile : Arguments.isDashed file.toList = false)
    (p : BucketProcess file) : Command.ofWords? p.words = p.edit.map (.bucket file) := by
  obtain ⟨entropy, words, edit, line⟩ := p
  cases line with
  | inspect => exact Command.ofWords?_bucket hname hfile rfl []
  | add word amount words h hwords =>
    refine (Command.ofWords?_bucket hname hfile rfl _).trans ?_
    rw [(Command.bucketEdit?_add h hwords).1]
  | addPlain word amount words more h hwords =>
    refine (Command.ofWords?_bucket hname hfile rfl _).trans ?_
    rw [(Command.bucketEdit?_add h hwords).2]
  | remove word =>
    refine (Command.ofWords?_bucket hname hfile rfl _).trans ?_
    rw [Command.bucketEdit?_remove]
  | clear => exact Command.ofWords?_bucket hname hfile rfl []

end BucketProcess

namespace Command

/-! ## One edit -/

/-- A file holds a well-formed bucket and can be written. -/
structure Holds (file : String) (b : Bucket) (files : Files) : Prop where
  wellFormed : b.WellFormed
  canWrite : files.canWrite file = true
  stored : ∃ saved, (storeAt files file).load = .ok saved ∧ Bucket.ofSaved saved = b

section Edit

variable {file : String} {b : Bucket} {files : Files} {edit : BucketEdit}

theorem holds_of_missing (h : files.state file = .missing true) : Holds file .empty files := by
  refine ⟨Bucket.wellFormed_empty, ?_, none, ?_, rfl⟩
  · rw [Files.canWrite, h]
  · rw [storeAt, h]
    rfl

theorem save_storeAt (h : files.canWrite file = true) (snapshot : Bucket.Snapshot) :
    (storeAt files file).save snapshot = .ok (.file (some (Store.fileBytes snapshot)) true) := by
  unfold Files.canWrite at h
  unfold storeAt
  cases hstate : files.state file with
  | bytes content writable =>
    rw [hstate] at h
    dsimp only at h ⊢
    rw [h]
    rfl
  | missing creatable =>
    rw [hstate] at h
    dsimp only at h ⊢
    rw [h]
    rfl
  | unreadable =>
    rw [hstate] at h
    cases h

theorem holds_keepStore (h : files.canWrite file = true) (hb : b.WellFormed) :
    Holds file b (keepStore files file (.file (some (Store.fileBytes b.snapshot)) true)) := by
  obtain ⟨files', hwrite⟩ := Files.write?_of_canWrite h (Store.fileBytes b.snapshot)
  have hkept : keepStore files file (.file (some (Store.fileBytes b.snapshot)) true) = files' := by
    rw [keepStore, hwrite]
    rfl
  have hstate := Files.state_of_write? hwrite
  rw [hkept]
  refine ⟨hb, ?_, some b.snapshot, ?_, hb.restore_snapshot .empty⟩
  · rw [Files.canWrite, hstate]
  · rw [storeAt, hstate]
    exact Store.ofBytes_fileBytes b.snapshot

theorem editBucket_of_possible (h : edit.Possible b) :
    editBucket edit b = .ok (b.afterAll edit.operations) := by
  cases edit with
  | inspect | add m | clear => rfl
  | remove index =>
    have hentry : b.entries[index]? = some b.entries[index] := List.getElem?_eq_getElem h
    rw [editBucket, Bucket.remove, hentry]
    rfl

/-- An edit that cannot be made is a removal, and it does nothing in memory. -/
theorem editBucket_of_not_possible (hb : b.WellFormed) (h : ¬ edit.Possible b) :
    ∃ index, edit = .remove index ∧ editBucket edit b = .error (.noEntry index) ∧
      b.afterAll edit.operations = b := by
  cases edit with
  | inspect | add m | clear => exact absurd trivial h
  | remove index =>
    have hentry : b.entries[index]? = none := List.getElem?_eq_none (Nat.le_of_not_lt h)
    refine ⟨index, rfl, ?_, hb.remove_none hentry⟩
    rw [editBucket, Bucket.remove, hentry]

/-- What is loaded is edited before anything is saved. -/
theorem editFile_of_load {store : Store} {saved : Option Bucket.Snapshot} (h : store.load = .ok saved) :
    editFile edit store = (editBucket edit (Bucket.ofSaved saved)).bind fun edited =>
      match store.save edited.snapshot with
      | .ok store' => .ok (edited, store')
      | .error _ => .error Fault.savingBucket := by
  rw [editFile, h]
  cases saved <;> rfl

/-- A process that makes an edit shows the edited bucket and leaves it in the file. -/
theorem runBucket_of_possible (h : Holds file b files) (hedit : edit.Possible b) :
    let edited := b.afterAll edit.operations
    (runBucket file edit files).ending = .done ∧
      (runBucket file edit files).output = edited.summary "" ++ "\n" ∧
      Holds file edited (runBucket file edit files).files := by
  intro edited
  obtain ⟨saved, hload, rfl⟩ := h.stored
  have hfile : editFile edit (storeAt files file) =
      .ok (edited, .file (some (Store.fileBytes edited.snapshot)) true) := by
    rw [editFile_of_load hload, editBucket_of_possible hedit, Except.bind, save_storeAt h.canWrite]
  rw [runBucket, hfile]
  refine ⟨rfl, ?_, holds_keepStore h.canWrite (h.wellFormed.afterAll _)⟩
  rw [CommandRun.output]
  simp

/-- A process that cannot make an edit shows nothing and leaves all files alone. -/
theorem runBucket_of_not_possible (h : Holds file b files) (hedit : ¬ edit.Possible b) :
    b.afterAll edit.operations = b ∧
      ∃ index, edit = .remove index ∧ runBucket file edit files = ⟨[], .failed (.noEntry index), files⟩ := by
  obtain ⟨saved, hload, rfl⟩ := h.stored
  obtain ⟨index, hindex, hfault, hsame⟩ := editBucket_of_not_possible h.wellFormed hedit
  refine ⟨hsame, index, hindex, ?_⟩
  rw [runBucket, editFile_of_load hload, hfault]
  rfl

end Edit

end Command

/-! ## Every series of processes -/

namespace BucketProcess

open Command

variable {file : String} {files : Files} {b : Bucket}

theorem run_of_edit (hname : file ≠ "") (hfile : Arguments.isDashed file.toList = false)
    {p : BucketProcess file} {edit : BucketEdit} (h : p.edit = some edit) (files : Files) :
    p.run files = runBucket file edit files := by
  rw [run, ofWords?_words hname hfile, h]
  rfl

theorem run_of_none (hname : file ≠ "") (hfile : Arguments.isDashed file.toList = false)
    {p : BucketProcess file} (h : p.edit = none) (files : Files) : p.run files = ⟨[], .refused, files⟩ := by
  rw [run, ofWords?_words hname hfile, h]
  rfl

theorem holds_run (hname : file ≠ "") (hfile : Arguments.isDashed file.toList = false)
    (h : Holds file b files) (p : BucketProcess file) :
    Holds file (b.afterAll p.operations) (p.run files).files := by
  cases hedit : p.edit with
  | none =>
    rw [run_of_none hname hfile hedit, operations, hedit]
    exact h
  | some edit =>
    rw [run_of_edit hname hfile hedit, operations, hedit]
    by_cases hpossible : edit.Possible b
    · exact (runBucket_of_possible h hpossible).2.2
    · -- neither the file nor the bucket in memory changes
      obtain ⟨hsame, index, -, hrun⟩ := runBucket_of_not_possible h hpossible
      rw [hrun]
      dsimp only
      rw [hsame]
      exact h

theorem holds_runAll (hname : file ≠ "") (hfile : Arguments.isDashed file.toList = false)
    (h : Holds file b files) (processes : List (BucketProcess file)) :
    Holds file (b.afterAll (processes.flatMap operations)) (runAll processes files) := by
  -- every process begins with the files of the last one, so bucket and files are general
  induction processes generalizing b files with
  | nil => exact h
  | cons p processes ih =>
    rw [List.flatMap_cons, Bucket.afterAll, List.foldl_append]
    exact ih (holds_run hname hfile h p)

/-- The bucket in a file is the bucket in memory. After any processes that show and edit the bucket in a file
that did not exist before them, what is loaded from the file is restored to the bucket that the same
operations leave in memory. The next process, whatever its line, shows that bucket after its own edit, unless
it removes an entry from a position that there is not or that cannot be read; then it fails, shows nothing
and leaves all files alone. -/
theorem restored_runAll (hname : file ≠ "") (hfile : Arguments.isDashed file.toList = false)
    (hmissing : files.state file = .missing true) (processes : List (BucketProcess file)) :
    let b := Bucket.empty.afterAll (processes.flatMap operations)
    let after := runAll processes files
    (∃ saved, (storeAt after file).load = .ok saved ∧ Bucket.ofSaved saved = b) ∧
      ∀ p : BucketProcess file, match p.edit with
        | some edit =>
          (edit.Possible b → (p.run after).ending = .done ∧
            (p.run after).output = (b.afterAll p.operations).summary "" ++ "\n") ∧
          (¬ edit.Possible b → ∃ index, edit = .remove index ∧
            p.run after = ⟨[], .failed (.noEntry index), after⟩)
        | none => p.run after = ⟨[], .refused, after⟩ := by
  intro b after
  have hafter : Holds file b after := holds_runAll hname hfile (holds_of_missing hmissing) processes
  refine ⟨hafter.stored, fun p => ?_⟩
  cases hedit : p.edit with
  | none => exact run_of_none hname hfile hedit after
  | some edit =>
    rw [run_of_edit hname hfile hedit, operations, hedit]
    constructor
    · intro hpossible
      obtain ⟨hdone, hshown, -⟩ := runBucket_of_possible hafter hpossible
      exact ⟨hdone, hshown⟩
    · intro himpossible
      exact (runBucket_of_not_possible hafter himpossible).2

/-- Two modifiers, the second one with a description that begins with a dash, and then a removal from each of
two positions, of which only the first one is there. -/
theorem restored_runAll_removed :
    let file := "bucket.json"
    let files : Files := ⟨[]⟩
    let dark : BucketProcess file :=
      ⟨0, _, _, .add "-2" (.clamp (-2)) ["dark", "alley"] (by decide) (by decide)⟩
    let aim : BucketProcess file := ⟨0, _, _, .addPlain "1" 1 [] ["-aim"] (by decide) (by decide)⟩
    let first : BucketProcess file := ⟨0, _, some (.remove 0), .remove "0"⟩
    let fifth : BucketProcess file := ⟨0, _, some (.remove 5), .remove "5"⟩
    let after := runAll [dark, aim] files
    files.state file = .missing true ∧ (first.run after).ending = .done ∧
      (first.run after).output = "total: +1\n  +1 : -aim\n" ∧
      fifth.run after = ⟨[], .failed (.noEntry 5), after⟩ := by
  intro file files dark aim first fifth after
  have hmissing : files.state file = .missing true := by decide
  have hname : file ≠ "" := by decide
  have hfile : Arguments.isDashed file.toList = false := by decide
  obtain ⟨-, hnext⟩ := restored_runAll hname hfile hmissing [dark, aim]
  let b := Bucket.empty.afterAll [.add ⟨.clamp (-2), "dark alley"⟩, .add ⟨1, "-aim"⟩]
  obtain ⟨hdone, hshown⟩ := (hnext first).1 (by decide : 0 < b.entries.length)
  obtain ⟨index, hindex, hfailed⟩ := (hnext fifth).2 (by decide : ¬ 5 < b.entries.length)
  cases hindex
  have hsummary : (b.afterAll [.remove 0]).summary "" ++ "\n" = "total: +1\n  +1 : -aim\n" := by
    decide +kernel
  exact ⟨hmissing, hdone, hshown.trans hsummary, hfailed⟩

end BucketProcess

end Rollmark
