import IssueFeed.CommandLine.Program
import Std.Time

/-!
The command itself. It loads what it may need from the system's files, carries out the command on
that, and stores what has changed. No network is built in, so a page cannot be reached.
-/
namespace IssueFeed.CommandLine

open Store (Disk Path)

def pathText (path : Path) : String :=
  let step : Store.Step → String
    | .name name => name
    | .here => "."
    | .up => ".."
  (if path.absolute then "/" else "") ++ "/".intercalate (path.steps.map step)

def unlessFailed (disk : Disk) : Except FileFault Disk → Disk
  | .ok disk => disk
  | .error _ => disk

/-- A disk with what the system has at a path and on the way to it. -/
def withLoaded (disk : Disk) (path : Path) : IO Disk :=
  path.prefixes.reverse.foldlM (fun disk place => do
    let file := (← IO.currentDir) / pathText place
    if ← file.isDir then return unlessFailed disk (disk.makeDirectory place)
    else if ← file.pathExists then
      let bytes ← IO.FS.readBinFile file
      return unlessFailed disk (disk.create place >>= fun disk => disk.append place bytes)
    else return disk) disk

/-- Gives the system the files that have changed. -/
def storeChanges (before after : Disk) : IO Unit := do
  for (place, entry) in after.entries.reverse do
    unless before.get? place == some entry do
      let path := "/" ++ "/".intercalate place
      match entry with
      | .directory => IO.FS.createDirAll path
      | .file bytes => IO.FS.writeBinFile path bytes
  for (place, _) in before.entries do
    if (after.get? place).isNone then IO.FS.removeFile ("/" ++ "/".intercalate place)

def currentInstant : IO Instant := do
  let now ← Std.Time.DateTime.now
  let date := now.date.get
  return {
    year := date.date.year.toInt
    month := date.date.month.val.toNat
    day := date.date.day.val.toNat
    hour := date.time.hour.val.toNat
    minute := date.time.minute.val.toNat
    second := date.time.second.val.toNat
    nanosecond := date.time.nanosecond.val.toNat
    offset := now.timezone.offset.second.val }

def usageText : String :=
  "\n".intercalate
    ["Keeps an RSS feed of newly published periodical issues", "",
      "Usage: feed-crawler [OPTIONS] [COMMAND]", "",
      "Commands:",
      "  run       Fetch the source page and append new issues (default)",
      "  validate  Validate configuration file",
      "  info      Show current feed info",
      "  help      Print this message", "",
      "Options:",
      "  -c, --config <CONFIG>  Path to the configuration file [default: data/config.toml]",
      "  -o, --output <OUTPUT>  Override the feed output path",
      "  -v, --verbose          Enable verbose logging",
      "  -h, --help             Print help",
      "  -V, --version          Print version"]

def perform (invocation : Invocation) : IO UInt32 := do
  let working := (← IO.currentDir).toString.splitOn "/" |>.filter (· ≠ "")
  let disk ← withLoaded (Disk.fresh working) (Path.ofText invocation.configPath)
  let config := (invocation.config disk).1
  let disk ← withLoaded disk (Path.ofText config.feed.outputPath)
  let ending := invocation.perform (← currentInstant) (fun _ => .unreachable) disk
  for report in ending.log do
    IO.eprintln s!"[{report.level.name}] {report.message}"
  storeChanges disk ending.disk
  if let some failure := ending.failure then IO.eprintln s!"Error: {failure.shown}"
  return ending.exitCode

end IssueFeed.CommandLine

def main (arguments : List String) : IO UInt32 := do
  match IssueFeed.CommandLine.usageOf arguments with
  | .help =>
    IO.println IssueFeed.CommandLine.usageText
    return 0
  | .version =>
    IO.println IssueFeed.CommandLine.versionText
    return 0
  | .unusable =>
    IO.eprintln IssueFeed.CommandLine.usageText
    return 2
  | .invocation invocation => IssueFeed.CommandLine.perform invocation
