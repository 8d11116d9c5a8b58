/-
Where a bucket is kept between sessions: in memory, or in a file that holds the JSON text of a
snapshot. A missing or blank file holds no bucket.
-/
import Rollmark.Bucket
import Rollmark.Json.Printer
import Rollmark.Json.Reader
import Rollmark.Text.Blank
import Rollmark.Text.Encoding

namespace Rollmark

/-- A place for a bucket. -/
inductive Store where
  /-- Nothing can be loaded or saved. -/
  | broken
  | memory (saved : Option Bucket.Snapshot)
  /-- A file by its bytes, if it exists, and whether it can be written. -/
  | file (bytes : Option (List UInt8)) (writable : Bool)
deriving DecidableEq

/-- Why a bucket could not be loaded or saved. -/
inductive StoreError where
  | loading
  | saving
deriving DecidableEq

namespace Store

/-- The bytes of a file that holds a snapshot. -/
def fileBytes (s : Bucket.Snapshot) : List UInt8 := Text.utf8Bytes s.toJson.pretty

/-- The snapshot in the bytes of a file. -/
def ofBytes (bytes : List UInt8) : Except StoreError (Option Bucket.Snapshot) :=
  match Text.ofFile? bytes with
  | none => .error .loading
  | some text =>
    if (Text.trim text.toList).isEmpty then .ok none
    else
      match (Json.parse? text).bind Bucket.Snapshot.ofJson? with
      | some s => .ok (some s)
      | none => .error .loading

/-- The snapshot that is kept, if there is one. -/
def load : Store → Except StoreError (Option Bucket.Snapshot)
  | .broken => .error .loading
  | .memory saved => .ok saved
  | .file none _ => .ok none
  | .file (some bytes) _ => ofBytes bytes

/-- Keeps a snapshot in place of the last one. -/
def save (snapshot : Bucket.Snapshot) : Store → Except StoreError Store
  | .memory _ => .ok (.memory (some snapshot))
  | .file _ true => .ok (.file (some (fileBytes snapshot)) true)
  | .broken | .file _ false => .error .saving

/-- Keeps a snapshot if that is possible. -/
def keep (snapshot : Bucket.Snapshot) (s : Store) : Store :=
  match s.save snapshot with
  | .ok s' => s'
  | .error _ => s

end Store

end Rollmark
