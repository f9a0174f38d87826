import IssueFeed.CommandLine.Arguments
import IssueFeed.Config.Read
import IssueFeed.Run.Update
import IssueFeed.Run.Validate

/-!
What the command does with a disk and a network: it reads the configuration and carries out one run.
-/
namespace IssueFeed.CommandLine

open Store (Disk Path)

structure Ending where
  failure : Option Failure := none
  log : Log := []
  disk : Disk
  request : Option Request := none

def Ending.exitCode (ending : Ending) : UInt32 :=
  if ending.failure.isSome then 1 else 0

/-- The reports that are shown: details only if they are asked for. -/
def shownLog (verbose : Bool) (log : Log) : Log :=
  log.filter fun report => verbose || report.level != .debug

def failureOf {Result : Type} : Except Failure Result → Option Failure
  | .ok _ => none
  | .error failure => some failure

def Invocation.config (invocation : Invocation) (disk : Disk) : Config × Log :=
  let (config, log) :=
    Config.loadOrDefault invocation.configPath (disk.read (Path.ofText invocation.configPath))
  match invocation.output with
  | some path => ({ config with feed := { config.feed with outputPath := path } }, log)
  | none => (config, log)

def updateReport : Except Failure Summary → Log
  | .ok summary =>
    if summary.firstRun then [⟨.info, s!"Started new feed with {summary.total} entries"⟩] else []
  | .error failure => [⟨.error, s!"Feed update failed: {failure.message}"⟩]

/-- Updates the feed if the configuration is sound. -/
def update (config : Config) (now : Instant) (network : Network) (disk : Disk) : Ending :=
  match config.validate with
  | .error failure => { failure := some failure, disk := disk }
  | .ok () =>
    match clientOf config.crawler with
    | .error failure => { failure := some failure, disk := disk }
    | .ok client =>
      let updated := runUpdate config now client network disk
      { failure := failureOf updated.result
        log := updated.log ++ updateReport updated.result
        disk := updated.disk
        request := updated.request }

def Command.perform (command : Command) (config : Config) (now : Instant) (network : Network)
    (disk : Disk) : Ending :=
  match command with
  | .run => update config now network disk
  | .validate =>
    let (result, log) := runValidate config
    { failure := failureOf result, log := log, disk := disk }
  | .info =>
    let (result, log) := runInfo config now disk
    { failure := failureOf result, log := log, disk := disk }

def Invocation.perform (invocation : Invocation) (now : Instant) (network : Network) (disk : Disk) :
    Ending :=
  let (config, log) := invocation.config disk
  let ending := invocation.command.perform config now network disk
  { ending with log := shownLog invocation.verbose (log ++ ending.log) }

def versionText : String := "feed-crawler 0.1.0"

end IssueFeed.CommandLine
