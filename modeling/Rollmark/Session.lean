/-
Sessions: settings, dice, the bucket, the place that keeps the bucket, and what was posted to the
table. An activation runs to its end before the next one begins. One that fails changes nothing.
-/
import Rollmark.Report
import Rollmark.Session.Store
import Rollmark.Span

namespace Rollmark

/-- What was posted to the table, in order. -/
structure Table where
  outcomes : List Report := []
  damage : List DamageRequest := []
  references : List Reference := []
deriving DecidableEq

/-- A running session. -/
structure Session where
  settings : Settings
  dice : Dice
  bucket : Bucket := .empty
  store : Option Store := none
  table : Table := {}
deriving DecidableEq

/-- What an activation did. -/
inductive Activation where
  | rolled (report : Report)
  | damage (request : DamageRequest)
  | modifierAdded (m : Modifier)
  | reference (r : Reference)
  /-- The target was not positive. -/
  | nothing
  /-- No rule recognizes the text. -/
  | unrecognized
deriving DecidableEq

/-- An activation that is over: what it did, the session and the character after it. -/
structure Turn where
  result : Except Error Activation
  session : Session
  actor : Option Sheet

namespace Session

/-- Attaches a place for the bucket and takes over what it holds. What cannot be loaded leaves the
bucket as it is. -/
def withStore (s : Session) (store : Store) : Session :=
  match store.load with
  | .ok (some snapshot) => { s with bucket := s.bucket.restore snapshot, store := some store }
  | _ => { s with store := some store }

/-- Keeps the bucket as it is now, if there is a place for it. -/
def persist (s : Session) : Session :=
  { s with store := s.store.map (Store.keep s.bucket.snapshot) }

/-! ## The bucket -/

def addModifier (s : Session) (m : Modifier) : Session :=
  ({ s with bucket := s.bucket.add m } : Session).persist

def setRange (s : Session) (amount : Amount) : Session :=
  ({ s with bucket := s.bucket.setRange amount } : Session).persist

/-- Takes out the entry at a position; without one there is nothing to keep. -/
def removeModifier (s : Session) (index : Nat) : Session :=
  let (removed, bucket) := s.bucket.remove index
  let s' : Session := { s with bucket := bucket }
  if removed.isSome then s'.persist else s'

def clearModifiers (s : Session) : Session :=
  ({ s with bucket := s.bucket.clear } : Session).persist

/-! ## Activations -/

/-- A request with the visibility that was asked for, unless only the game master may see it. -/
def asked (visibility : Option Visibility) (request : RollRequest) : RollRequest :=
  match visibility with
  | some v => if request.visibility = .gameMaster then request else { request with visibility := v }
  | none => request

/-- Charges a character for a roll. -/
def charge (report : Report) (actor : Option Sheet) : Option Sheet :=
  if report.fatigueCost = 0 then actor else actor.map (·.spendFatigue report.fatigueCost)

/-- Rolls, charges the character, keeps the bucket and posts the report. -/
def roll (s : Session) (actor : Option Sheet) (request : RollRequest) : Turn :=
  let (resolved, bucket, dice) := resolve request s.bucket s.dice
  let s' : Session := { s with bucket := bucket, dice := dice }
  match resolved with
  | .error e => ⟨.error e, s', actor⟩
  | .ok report =>
    let s'' := s'.persist
    ⟨.ok (.rolled report),
      { s'' with table := { s''.table with outcomes := s''.table.outcomes ++ [report] } },
      charge report actor⟩

/-- Carries out an action for a character, shown as somebody asked for. -/
def activate (s : Session) (a : Action) (actor : Option Sheet) (visibility : Option Visibility) :
    Turn :=
  let (dispatched, bucket) := dispatch s.settings actor a s.bucket
  let s' : Session := { s with bucket := bucket }
  match dispatched with
  | .error e => ⟨.error e, s', actor⟩
  | .ok (.roll request) => s'.roll actor (asked visibility request)
  | .ok (.damage request) =>
    ⟨.ok (.damage request),
      { s' with table := { s'.table with damage := s'.table.damage ++ [request] } }, actor⟩
  | .ok (.modifier m) => ⟨.ok (.modifierAdded m), s'.persist, actor⟩
  | .ok (.reference r) =>
    ⟨.ok (.reference r),
      { s' with table := { s'.table with references := s'.table.references ++ [r] } }, actor⟩
  | .ok .nothing => ⟨.ok .nothing, s', actor⟩

/-- Parses the content of one pair of brackets and carries out its action, shown as somebody asked
for. -/
def activateText (s : Session) (text : String) (actor : Option Sheet)
    (visibility : Option Visibility) : Turn :=
  match (Span.parse text s.settings.defaultDesc s.settings.colorModifiers).action with
  | some a => s.activate a actor visibility
  | none => ⟨.ok .unrecognized, s, actor⟩

end Session

end Rollmark
