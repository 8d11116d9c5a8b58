/-
The bucket collects modifiers for the next roll. Modifiers with the same description are merged
in the place of the first one; the roll takes everything out at once.
-/
import Rollmark.Modifier

namespace Rollmark

/-- Collected modifiers in the order in which their descriptions came, and their sum. -/
structure Bucket where
  entries : List Modifier
  sum : Amount
deriving DecidableEq

namespace Bucket

/-- Adds an amount to the entry with its description, or an entry at the end. -/
def merge (m : Modifier) : List Modifier → List Modifier
  | [] => [m]
  | e :: rest =>
    if e.desc = m.desc then ⟨e.amount + m.amount, e.desc⟩ :: rest else e :: merge m rest

/-- The bucket with the given entries, which have different descriptions. -/
def ofEntries (entries : List Modifier) : Bucket := ⟨entries, Modifier.total entries⟩

def empty : Bucket := ⟨[], 0⟩

instance : Inhabited Bucket := ⟨empty⟩

/-- Collects one more modifier. -/
def add (b : Bucket) (m : Modifier) : Bucket := ofEntries (merge m b.entries)

/-- Takes everything out: the given modifiers and then the entries. -/
def drain (b : Bucket) (external : List Modifier) : List Modifier × Bucket :=
  (external ++ b.entries, ofEntries [])

/-- Takes out the entry at a position. -/
def remove (b : Bucket) (index : Nat) : Option Modifier × Bucket :=
  (b.entries[index]?, ofEntries (b.entries.eraseIdx index))

/-- Throws everything away. -/
def clear (_ : Bucket) : Bucket := ofEntries []

/-! ## The measured range -/

/-- The description of the one entry for a measured range. -/
def rangeDesc : String := "for range"

/-- Replaces the entry for the measured range; zero only takes it out. -/
def setRange (b : Bucket) (amount : Amount) : Bucket :=
  let others := b.entries.filter fun e => e.desc ≠ rangeDesc
  if amount = 0 then ofEntries others else (ofEntries others).add ⟨amount, rangeDesc⟩

/-! ## Text -/

/-- The total and a line for each entry, or that there are none. -/
def summary (b : Bucket) (label : String) : String :=
  if b.entries.isEmpty then label ++ "No modifiers"
  else
    label ++ "total: " ++ b.sum.signedText
      ++ String.join (b.entries.map fun e => "\n  " ++ e.amount.signedText ++ " : " ++ e.desc)

/-! ## Snapshots -/

/-- The stored form of a bucket. -/
structure Snapshot where
  entries : List Modifier
  sum : Amount
deriving DecidableEq

def snapshot (b : Bucket) : Snapshot := ⟨b.entries, b.sum⟩

/-- The bucket that a snapshot describes. Repeated descriptions are merged and the stored sum does
not count. -/
def restore (_ : Bucket) (s : Snapshot) : Bucket :=
  ofEntries (s.entries.foldl (fun kept m => merge m kept) [])

namespace Snapshot

def toJson (s : Snapshot) : Json :=
  .object [("modifierList", .array (s.entries.map Modifier.toJson)),
    ("currentSum", .integer s.sum.val)]

def ofJson? (v : Json) : Option Snapshot := do
  let fields ← v.fields? false ["modifierList", "currentSum"]
  some ⟨← fields.orElse "modifierList" [] (Json.list? Modifier.ofJson?),
    ← fields.orElse "currentSum" 0 Json.amount?⟩

end Snapshot

end Bucket

end Rollmark
