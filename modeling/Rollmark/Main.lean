/-
The command line program: reads the files that a command mentions, runs it, writes the files that
it changed, and prints.
-/
import Rollmark.Command.Run

namespace Rollmark

/-- How the program is used. -/
def usage : String :=
  "\n".intercalate
    ["usage: rollmark parse [--no-color] TEXT",
      "       rollmark link [--no-color] TEXT",
      "       rollmark roll [--character FILE] [--seed N] [--bucket FILE] [--settings FILE]"
        ++ " [--whisper] SPAN",
      "       rollmark bucket [--file FILE] show | add N [WORD ...] | remove INDEX | clear",
      "       rollmark check --target N [--modifier N] [--seed N]",
      "       rollmark menus [--menu ID]",
      "       rollmark odds [--trials N] [--seed N] [--from N] [--to N] [--json]"]

/-- What stands at a path, as far as reading tells. Whether it can be written shows later. -/
def readState (path : String) : IO FileState := do
  try
    return .bytes (← IO.FS.readBinFile path).toList true
  catch
    | .noFileOrDirectory .. => return .missing true
    | _ => return .unreadable

/-- The files at some paths. -/
def readFiles (paths : List String) : IO Files :=
  paths.foldlM (fun files path => return files.withState path (← readState path)) ⟨[]⟩

/-- A file that cannot be written. -/
def FileState.locked : FileState → FileState
  | .bytes content _ => .bytes content false
  | .missing _ => .missing false
  | .unreadable => .unreadable

/-- Writes the files that a run changed, and gives the paths where that failed. -/
def writeChanges (before after : Files) (paths : List String) : IO (List String) :=
  paths.eraseDups.filterM fun path => do
    match after.content? path with
    | none => return false
    | some content =>
      if before.content? path = some content then return false
      try
        IO.FS.writeBinFile path ⟨content.toArray⟩
        return false
      catch _ => return true

/-- Runs a command on the files of the system. When a file could not be written, it is run again
with that known beforehand. -/
def runOnFiles (entropy : UInt64) (command : Option Command) : IO CommandRun := do
  let paths := match command with
    | some c => c.paths
    | none => []
  let files ← readFiles paths
  let done := Command.runOrRefuse entropy files command
  match ← writeChanges files done.files paths with
  | [] => return done
  | failed =>
    let locked := failed.foldl (fun fs path => fs.withState path (fs.state path).locked) files
    return Command.runOrRefuse entropy locked command

/-- A number from eight random bytes. -/
def entropy : IO UInt64 := do
  return (← IO.getRandomBytes 8).toList.foldl (fun n b => n * 256 + b.toUInt64) 0

end Rollmark

open Rollmark in
def main (args : List String) : IO UInt32 := do
  let command := match args with
    | "odds" :: rest => (Command.oddsRequest? rest).map .odds
    | words => Command.ofWords? words
  let done ← runOnFiles (← entropy) command
  IO.print done.output
  match done.ending, done.notice? with
  | .refused, _ => IO.eprintln usage
  | _, some notice => IO.eprintln notice
  | _, none => pure ()
  return done.ending.code.toUInt32
