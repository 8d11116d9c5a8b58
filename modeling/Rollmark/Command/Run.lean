/-
Running commands: the lines that a command prints, how it ends, and the files after it. What was
printed before a command failed stays printed.
-/
import Rollmark.Action.Wire
import Rollmark.Command
import Rollmark.Command.Files
import Rollmark.Menu.Builtin
import Rollmark.Session
import Rollmark.Settings.Yaml
import Rollmark.Sheet.Wire
import Rollmark.Span.Link

namespace Rollmark

/-- Why a command failed. -/
inductive Fault where
  | loadingSettings (path : String)
  | readingCharacter (path : String)
  | parsingCharacter (path : String)
  | writingCharacter (path : String)
  | loadingBucket
  | savingBucket
  | noSpan (text : String)
  | activation (e : Error)
  | noEntry (index : Nat)
  | targetNotPositive (target : Amount)
  | unknownMenu (id : String)
  | emptyRange (least greatest : Amount)
deriving DecidableEq

/-- The notice for the user. -/
def Fault.message : Fault → String
  | .loadingSettings path => "loading " ++ path
  | .readingCharacter path => "reading " ++ path
  | .parsingCharacter path => "parsing character " ++ path
  | .writingCharacter path => "writing character " ++ path
  | .loadingBucket => "loading bucket"
  | .savingBucket => "saving bucket"
  | .noSpan text => "'" ++ text ++ "' is not an OTF formula"
  | .activation e => e.message
  | .noEntry index => "no bucket entry at position " ++ String.ofList (Text.digits index)
  | .targetNotPositive target => "target must be positive, got " ++ target.text
  | .unknownMenu id => "unknown menu '" ++ id ++ "'"
  | .emptyRange least greatest => "--from " ++ least.text ++ " is above --to " ++ greatest.text

/-- How a command ended. -/
inductive Ending where
  | done
  | failed (fault : Fault)
  /-- The words ask for nothing known. -/
  | refused
deriving DecidableEq

/-- The exit code. -/
def Ending.code : Ending → Nat
  | .done => 0
  | .failed _ => 1
  | .refused => 2

/-- A command that has run. -/
structure CommandRun where
  lines : List String
  ending : Ending
  files : Files
deriving DecidableEq

namespace CommandRun

/-- The text that was printed. -/
def output (r : CommandRun) : String := String.join (r.lines.map (· ++ "\n"))

/-- The notice behind a failure. -/
def notice? (r : CommandRun) : Option String :=
  match r.ending with
  | .failed fault => some ("Error: " ++ fault.message)
  | _ => none

end CommandRun

namespace Command

/-! ## What was posted -/

/-- The lines above a result that not everyone sees. -/
def visibilityLines : Visibility → List String
  | .everyone => []
  | .roller => ["(whisper)"]
  | .gameMaster => ["(blind roll, GM only)"]

/-- The name and the factor of a damage type that is known and not kept from view. -/
def woundNote (damageType : String) : String :=
  match wound? ((damageKeyword? damageType).getD damageType) with
  | some w => if w.hidden then "" else " [" ++ w.label ++ " x" ++ w.factor.text ++ "]"
  | none => ""

/-- The line for a damage request. -/
def damageLine (r : DamageRequest) : String :=
  "Damage " ++ r.label.getD r.formula ++ " " ++ r.damageType ++ " ("
    ++ r.actor.getD "no character" ++ "): " ++ r.formula ++ woundNote r.damageType

/-- The lines for all that was posted to a table. -/
def tableLines (t : Table) : List String :=
  (t.outcomes.flatMap fun report => visibilityLines report.visibility ++ [report.text])
    ++ t.damage.map damageLine ++ t.references.flatMap fun r => [r.text, r.url]

/-! ## Files that take part -/

/-- The settings in a file. One whose extension is `json` holds JSON, any other one YAML. -/
def loadSettings? (files : Files) (path : String) : Option Settings := do
  let text ← (files.content? path).bind Text.strictUtf8?
  if fileExtension? path = some "json" then Settings.readJson? text else Settings.readYaml? text

/-- The character in a file. -/
def loadCharacter (files : Files) (path : String) : Except Fault Sheet :=
  match (files.content? path).bind Text.ofFile? with
  | none => .error (.readingCharacter path)
  | some text =>
    match Sheet.read? text with
    | some sheet => .ok sheet
    | none => .error (.parsingCharacter path)

/-- The bytes of a character's file. -/
def characterBytes (s : Sheet) : List UInt8 := Text.utf8Bytes s.toJson.pretty

/-- The place for a bucket that a file is. -/
def storeAt (files : Files) (path : String) : Store :=
  match files.state path with
  | .bytes content writable => .file (some content) writable
  | .missing creatable => .file none creatable
  | .unreadable => .broken

/-- The files after a place for a bucket was used. -/
def keepStore (files : Files) (path : String) : Store → Files
  | .file (some content) _ => (files.write? path content).getD files
  | _ => files

/-! ## Rolls -/

/-- The line behind a roll that cost a character fatigue. -/
def spendLine (s : Sheet) (cost : Amount) : String :=
  s.name ++ " spends " ++ cost.text ++ " FP (" ++ s.fatigue.value.text ++ "/"
    ++ s.fatigue.max.text ++ " left)"

/-- What follows an activation: the lines behind those that were posted, and the character's file
written back when it lost fatigue. -/
def finishRoll (command : RollCommand) (turn : Turn) (files : Files) : CommandRun :=
  let posted := tableLines turn.session.table
  match turn.result with
  | .error e => ⟨posted, .failed (.activation e), files⟩
  | .ok (.modifierAdded _) => ⟨posted ++ [turn.session.bucket.summary "Bucket "], .done, files⟩
  | .ok .nothing => ⟨posted ++ ["No roll (target is not positive)"], .done, files⟩
  | .ok (.rolled report) =>
    match command.character, turn.actor with
    | some path, some sheet =>
      if report.fatigueCost = 0 then ⟨posted, .done, files⟩
      else
        match files.write? path (characterBytes sheet) with
        | some files' => ⟨posted ++ [spendLine sheet report.fatigueCost], .done, files'⟩
        | none => ⟨posted, .failed (.writingCharacter path), files⟩
    | _, _ => ⟨posted, .done, files⟩
  | .ok _ => ⟨posted, .done, files⟩

/-- The settings, the character and the session that a roll begins with. Dice without a seed take
the given one. -/
def beginRoll (entropy : UInt64) (command : RollCommand) (files : Files) :
    Except Fault (Session × Option Sheet) := do
  let loaded ← match command.settings with
    | none => .ok {}
    | some path =>
      match loadSettings? files path with
      | some s => .ok s
      | none => .error (.loadingSettings path)
  let settings : Settings := { loaded with seed := command.seed.or loaded.seed }
  let character ← match command.character with
    | none => .ok none
    | some path => (loadCharacter files path).map some
  let fresh : Session := { settings, dice := .ofSeed (settings.seed.getD entropy) }
  let session := match command.bucket with
    | none => fresh
    | some path => fresh.withStore (storeAt files path)
  .ok (session, character)

/-- Activates a span. -/
def runRoll (entropy : UInt64) (command : RollCommand) (files : Files) : CommandRun :=
  match beginRoll entropy command files with
  | .error fault => ⟨[], .failed fault, files⟩
  | .ok (session, character) =>
    let text := Span.stripBrackets command.span
    match (Span.parse text session.settings.defaultDesc true).action with
    | none => ⟨[], .failed (.noSpan text), files⟩
    | some action =>
      let asked := if command.whisper then some .roller else none
      let turn := session.activate action character asked
      let files' := match command.bucket, turn.session.store with
        | some path, some store => keepStore files path store
        | _, _ => files
      finishRoll command turn files'

/-! ## Buckets in files -/

/-- A bucket after an edit. -/
def editBucket (edit : BucketEdit) (b : Bucket) : Except Fault Bucket :=
  match edit with
  | .inspect => .ok b
  | .add m => .ok (b.add m)
  | .remove index =>
    match b.remove index with
    | (some _, b') => .ok b'
    | (none, _) => .error (.noEntry index)
  | .clear => .ok b.clear

/-- Loads a bucket, edits it and saves it. -/
def editFile (edit : BucketEdit) (store : Store) : Except Fault (Bucket × Store) := do
  let loaded ← match store.load with
    | .ok (some snapshot) => .ok (Bucket.empty.restore snapshot)
    | .ok none => .ok Bucket.empty
    | .error _ => .error .loadingBucket
  let edited ← editBucket edit loaded
  match store.save edited.snapshot with
  | .ok store' => .ok (edited, store')
  | .error _ => .error .savingBucket

/-- Shows or changes the bucket in a file. -/
def runBucket (path : String) (edit : BucketEdit) (files : Files) : CommandRun :=
  match editFile edit (storeAt files path) with
  | .ok (edited, store) => ⟨[edited.summary ""], .done, keepStore files path store⟩
  | .error fault => ⟨[], .failed fault, files⟩

/-! ## Other commands -/

/-- Parses a span: its text, and its action if it has one. -/
def parseLines (text : String) (colored : Bool) : List String :=
  let parsed := Span.parse (Span.stripBrackets text) "" colored
  parsed.text :: (match parsed.action with
    | some a => [a.toJson.pretty]
    | none => [])

/-- Rolls three dice against a target. -/
def checkLines (target modifier : Amount) (seed : UInt64) : Except Fault (List String) :=
  if 0 < target then
    let collected := if modifier = 0 then Bucket.empty else Bucket.empty.add ⟨modifier, "modifier"⟩
    match (resolve (.check target "3d6") collected (.ofSeed seed)).1 with
    | .ok report => .ok [report.text]
    | .error e => .error (.activation e)
  else .error (.targetNotPositive target)

/-- Lists menus. -/
def menuLines (id : Option String) : Except Fault (List String) :=
  match id with
  | none => .ok (Menu.builtin.flatMap Menu.lines)
  | some id =>
    match Menu.builtin.filter (·.id == id) with
    | [] => .error (.unknownMenu id)
    | found => .ok (found.flatMap Menu.lines)

/-- Finds odds. -/
def oddsLines (request : Odds.Request) : Except Fault (List String) :=
  if request.least ≤ request.greatest then .ok request.lines
  else .error (.emptyRange request.least request.greatest)

/-- A command that leaves all files alone. -/
def printed (files : Files) : Except Fault (List String) → CommandRun
  | .ok lines => ⟨lines, .done, files⟩
  | .error fault => ⟨[], .failed fault, files⟩

/-- Runs a command. Dice without a seed take the given one. -/
def run (entropy : UInt64) (files : Files) : Command → CommandRun
  | .parse text colored => printed files (.ok (parseLines text colored))
  | .link text colored => printed files (.ok [Span.link text colored])
  | .roll command => runRoll entropy command files
  | .bucket path edit => runBucket path edit files
  | .check target modifier seed => printed files (checkLines target modifier seed)
  | .menus id => printed files (menuLines id)
  | .odds request => printed files (oddsLines request)

/-- Runs what words asked for, or refuses. -/
def runOrRefuse (entropy : UInt64) (files : Files) : Option Command → CommandRun
  | some command => command.run entropy files
  | none => ⟨[], .refused, files⟩

/-- The paths of the files that take part in a command, in the order in which they are written. -/
def paths : Command → List String
  | .roll command =>
    command.settings.toList ++ command.bucket.toList ++ command.character.toList
  | .bucket path _ => [path]
  | _ => []

end Command

end Rollmark
