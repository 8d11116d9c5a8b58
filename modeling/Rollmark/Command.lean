/-
Commands: what the words of a command line ask for. Words that ask for nothing known are refused as
a whole.
-/
import Rollmark.Command.Arguments
import Rollmark.Modifier
import Rollmark.Odds
import Rollmark.Settings

namespace Rollmark

/-- What to do with a bucket in a file. -/
inductive BucketEdit where
  | inspect
  | add (m : Modifier)
  /-- Takes out the entry at a position. -/
  | remove (index : Nat)
  | clear
deriving DecidableEq

/-- A span to be activated, and the paths of the files that take part. -/
structure RollCommand where
  span : String
  character : Option String
  /-- Counts before the seed of the settings. -/
  seed : Option UInt64
  bucket : Option String
  settings : Option String
  /-- The result is for the roller alone. -/
  whisper : Bool
deriving DecidableEq

/-- What a command line asks for. -/
inductive Command where
  /-- Parses a span. -/
  | parse (text : String) (colored : Bool)
  /-- Shows all spans in a text. -/
  | link (text : String) (colored : Bool)
  /-- Activates a span. -/
  | roll (command : RollCommand)
  /-- Shows or changes the bucket in a file. -/
  | bucket (path : String) (edit : BucketEdit)
  /-- Rolls three dice against a target. -/
  | check (target modifier : Amount) (seed : UInt64)
  /-- Lists the menus that come with the program, or one of them. -/
  | menus (id : Option String)
  /-- Finds the odds of success rolls. -/
  | odds (request : Odds.Request)
deriving DecidableEq

namespace Command

/-! ## Values of options -/

/-- A number without a minus sign, up to a limit. -/
def naturalUpTo? (limit : Nat) (word : String) : Option Nat :=
  (Text.unsigned? word.toList).filter (· ≤ limit)

/-- The seed of dice. -/
def seed? (word : String) : Option UInt64 :=
  (naturalUpTo? Settings.maxSeed word).map Nat.toUInt64

/-- An amount. -/
def amount? (word : String) : Option Amount := Amount.read? word.toList

/-- The greatest number of trials. -/
def maxTrials : Nat := 4294967295

/-- A number of trials; zero may have a minus sign. -/
def trials? (word : String) : Option Nat :=
  match Text.integer? word.toList with
  | some n => if 0 ≤ n ∧ n ≤ maxTrials then some n.toNat else none
  | none => none

/-- The path of a file. -/
def path? (word : String) : Option String := if word.isEmpty then none else some word

/-- The greatest position that may be asked for. -/
def maxIndex : Nat := 18446744073709551615

/-! ## The commands -/

/-- A text to be shown, and whether its modifiers are colored. -/
def shownText? (words : List String) : Option (String × Bool) := do
  let a ← Arguments.ofWords? { flags := ["no-color"] } words
  some (← a.word?, !a.flag "no-color")

def rollCommand? (words : List String) : Option RollCommand := do
  let a ← Arguments.ofWords?
    { flags := ["whisper"], options := ["character", "seed", "bucket", "settings"] } words
  some ⟨← a.word?, ← a.value? "character" path?, ← a.value? "seed" seed?,
    ← a.value? "bucket" path?, ← a.value? "settings" path?, a.flag "whisper"⟩

def bucketEdit? : List String → Option BucketEdit
  | "show" :: rest => do
    let a ← Arguments.ofWords? {} rest
    if a.words.isEmpty then some .inspect else none
  | "add" :: rest => do
    let a ← Arguments.ofWords? { negativeFirst := true } rest
    match a.words with
    | amount :: desc => some (.add ⟨← amount? amount, " ".intercalate desc⟩)
    | [] => none
  | "remove" :: rest => do
    let a ← Arguments.ofWords? {} rest
    some (.remove (← naturalUpTo? maxIndex (← a.word?)))
  | "clear" :: rest => do
    let a ← Arguments.ofWords? {} rest
    if a.words.isEmpty then some .clear else none
  | _ => none

/-- The file that holds the bucket when none is named. -/
def defaultBucketPath : String := "bucket.json"

def bucketCommand? (words : List String) : Option Command := do
  let a ← Arguments.ofWords? { options := ["file"], nested := true } words
  let path ← a.value? "file" path?
  some (.bucket (path.getD defaultBucketPath) (← bucketEdit? a.words))

/-- The seed of a check when none is given. -/
def defaultCheckSeed : UInt64 := 42

def check? (words : List String) : Option Command := do
  let a ← Arguments.ofWords?
    { options := ["target", "modifier", "seed"], negative := ["modifier"] } words
  let target ← a.value? "target" amount?
  let modifier ← a.value? "modifier" amount?
  let seed ← a.value? "seed" seed?
  if a.words.isEmpty then
    some (.check (← target) (modifier.getD 0) (seed.getD defaultCheckSeed))
  else none

def menus? (words : List String) : Option Command := do
  let a ← Arguments.ofWords? { options := ["menu"] } words
  let id ← a.value? "menu" some
  if a.words.isEmpty then some (.menus id) else none

/-- The sweep when nothing else is asked for. -/
def defaultOdds : Odds.Request := ⟨10000, 12345, 3, 20, false⟩

/-- What the words of a sweep ask for. -/
def oddsRequest? (words : List String) : Option Odds.Request := do
  let a ← Arguments.ofWords?
    { flags := ["json"], options := ["trials", "seed", "from", "to"] } words
  let trials ← a.value? "trials" trials?
  let seed ← a.value? "seed" seed?
  let least ← a.value? "from" amount?
  let greatest ← a.value? "to" amount?
  if a.words.isEmpty then
    some ⟨trials.getD defaultOdds.trials, seed.getD defaultOdds.seed,
      least.getD defaultOdds.least, greatest.getD defaultOdds.greatest, a.flag "json"⟩
  else none

/-- What the words of a command line ask for. -/
def ofWords? : List String → Option Command
  | "parse" :: rest => (shownText? rest).map fun (text, colored) => .parse text colored
  | "link" :: rest => (shownText? rest).map fun (text, colored) => .link text colored
  | "roll" :: rest => (rollCommand? rest).map .roll
  | "bucket" :: rest => bucketCommand? rest
  | "check" :: rest => check? rest
  | "menus" :: rest => menus? rest
  | _ => none

end Command

end Rollmark
