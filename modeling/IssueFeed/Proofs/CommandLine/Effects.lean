import IssueFeed.CommandLine.Program
import IssueFeed.Proofs.CommandLine.Spelling
import IssueFeed.Proofs.Config.Checked
import IssueFeed.Proofs.Web.Pages

/-! What a command does to the outside.
Only an update whose configuration is sound asks for a page, and only when it has the page and the
old feed does it touch a file. The check of the configuration and the update agree on what is
sound. -/
namespace IssueFeed

open Store (Disk)

variable {config : Config} {network : Network} {disk : Disk} {failure : Failure}

theorem readFeed_failure {location : String}
    (failed : (Store.readFeed disk location).1 = .error failure) :
    ∃ fault, failure = .io fault := by
  unfold Store.readFeed at failed
  split at failed
  · cases failed
  · cases failed
  · cases failed
    exact ⟨_, rfl⟩

/-- An update that is under way does not fail for its configuration. -/
theorem runUpdate_not_validation {now : Instant} {client : String} (message : String) :
    (runUpdate config now client network disk).result ≠ .error (.validation message) := by
  intro failed
  have course := runUpdate_course config now client network disk
  rw [failed] at course
  generalize (runUpdate config now client network disk).disk = after at course
  cases course with
  | unfetched _ missed =>
    obtain ⟨_, same⟩ := fetchPage_failure missed
    cases same
  | unread _ _ _ unreadable =>
    obtain ⟨_, same⟩ := readFeed_failure unreadable
    cases same

theorem runUpdate_disk {now : Instant} {client : String}
    (changed : (runUpdate config now client network disk).disk ≠ disk) :
    ∃ page stored, (fetchPage network client config.source.pageUrl).result = .ok page ∧
      (Store.readFeed disk config.feed.outputPath).1 = .ok stored := by
  have course := runUpdate_course config now client network disk
  generalize (runUpdate config now client network disk).result = result at course
  generalize (runUpdate config now client network disk).disk = after at course changed
  cases course with
  | unfetched => exact absurd rfl changed
  | unread => exact absurd rfl changed
  | unwritten page fetched stored found => exact ⟨page, stored, fetched, found⟩
  | recorded page fetched stored found => exact ⟨page, stored, fetched, found⟩

namespace CommandLine

variable {now : Instant} {command : Command} {invocation : Invocation}

theorem Ending.exitCode_eq_zero_iff {ending : Ending} :
    ending.exitCode = 0 ↔ ending.failure = none := by
  unfold Ending.exitCode
  cases ending.failure <;> simp

theorem failureOf_eq_none_iff {Result : Type} {result : Except Failure Result} :
    failureOf result = none ↔ ∃ value, result = .ok value := by
  cases result <;> simp [failureOf]

theorem failureOf_eq_some_iff {Result : Type} {result : Except Failure Result} :
    failureOf result = some failure ↔ result = .error failure := by
  cases result <;> simp [failureOf]

/-! ## The update -/

theorem update_unsound (unsound : config.validate = .error failure) (now : Instant)
    (network : Network) (disk : Disk) :
    update config now network disk = { failure := some failure, disk := disk } := by
  rw [update, unsound]

theorem update_disk (changed : (update config now network disk).disk ≠ disk) :
    ∃ client page stored, clientOf config.crawler = .ok client ∧
      (fetchPage network client config.source.pageUrl).result = .ok page ∧
      (Store.readFeed disk config.feed.outputPath).1 = .ok stored := by
  unfold update at changed
  cases sound : config.validate with
  | error failure =>
    rw [sound] at changed
    exact absurd rfl changed
  | ok =>
    rw [sound] at changed
    cases made : clientOf config.crawler with
    | error failure =>
      rw [made] at changed
      exact absurd rfl changed
    | ok client =>
      rw [made] at changed
      obtain ⟨page, stored, fetched, found⟩ := runUpdate_disk changed
      exact ⟨client, page, stored, rfl, fetched, found⟩

/-- What an update says of its configuration is what the check says of it. -/
theorem update_not_validation_iff :
    (∀ message, (update config now network disk).failure ≠ some (.validation message)) ↔
      config.validate = .ok () := by
  cases sound : config.validate with
  | error failure =>
    obtain ⟨message, rfl⟩ := Config.validate_failure sound
    rw [update_unsound sound]
    simp
  | ok =>
    simp only [iff_true]
    intro message
    rw [update, sound]
    cases made : clientOf config.crawler with
    | error failure =>
      unfold clientOf at made
      split_ifs at made
      cases made
      simp
    | ok client =>
      simp only [ne_eq, failureOf_eq_some_iff]
      exact runUpdate_not_validation message

/-! ## All commands -/

/-- The command neither asks for a page nor touches a file, whatever the network is. -/
structure Command.Idle (command : Command) (config : Config) (now : Instant) (disk : Disk) :
    Prop where
  same : ∀ network other : Network,
    command.perform config now network disk = command.perform config now other disk
  unasked : ∀ network, (command.perform config now network disk).request = none
  untouched : ∀ network, (command.perform config now network disk).disk = disk

theorem Command.idle_of_not_run (named : command ≠ .run) (config : Config) (now : Instant)
    (disk : Disk) : command.Idle config now disk := by
  cases command with
  | run => exact absurd rfl named
  | validate => exact ⟨fun _ _ => rfl, fun _ => rfl, fun _ => rfl⟩
  | info => exact ⟨fun _ _ => rfl, fun _ => rfl, fun _ => rfl⟩

theorem Command.idle_of_unsound (unsound : config.validate ≠ .ok ()) (command : Command)
    (now : Instant) (disk : Disk) : command.Idle config now disk := by
  cases command with
  | run =>
    cases refused : config.validate with
    | ok => exact absurd refused unsound
    | error failure =>
      constructor <;> intros <;> simp only [Command.perform, update_unsound refused]
  | validate => exact Command.idle_of_not_run (by decide) config now disk
  | info => exact Command.idle_of_not_run (by decide) config now disk

theorem Command.perform_disk (changed : (command.perform config now network disk).disk ≠ disk) :
    ∃ client page stored, clientOf config.crawler = .ok client ∧
      (fetchPage network client config.source.pageUrl).result = .ok page ∧
      (Store.readFeed disk config.feed.outputPath).1 = .ok stored := by
  cases command with
  | run => exact update_disk changed
  | validate => exact absurd rfl changed
  | info => exact absurd rfl changed

theorem validate_succeeds_iff :
    (Command.validate.perform config now network disk).failure = none ↔
      config.validate = .ok () := by
  simp only [Command.perform, failureOf_eq_none_iff, runValidate]
  cases config.validate <;> simp

namespace Invocation

/-- The configuration depends on no more than the two paths. -/
theorem config_of (invocation : Invocation) (verbose : Bool) (command : Command) (disk : Disk) :
    { invocation with verbose := verbose, command := command }.config disk =
      invocation.config disk :=
  rfl

@[simp]
theorem perform_failure (invocation : Invocation) (now : Instant) (network : Network)
    (disk : Disk) : (invocation.perform now network disk).failure =
      (invocation.command.perform (invocation.config disk).1 now network disk).failure := by
  simp only [Invocation.perform]

@[simp]
theorem perform_request (invocation : Invocation) (now : Instant) (network : Network)
    (disk : Disk) : (invocation.perform now network disk).request =
      (invocation.command.perform (invocation.config disk).1 now network disk).request := by
  simp only [Invocation.perform]

@[simp]
theorem perform_disk (invocation : Invocation) (now : Instant) (network : Network)
    (disk : Disk) : (invocation.perform now network disk).disk =
      (invocation.command.perform (invocation.config disk).1 now network disk).disk := by
  simp only [Invocation.perform]

/-- Asking for details changes nothing but what is shown. -/
theorem perform_detailed (invocation : Invocation) (now : Instant) (network : Network)
    (disk : Disk) :
    let shown := { invocation with verbose := true }.perform now network disk
    let ending := invocation.perform now network disk
    shown.exitCode = ending.exitCode ∧ shown.failure = ending.failure ∧
      shown.request = ending.request ∧ shown.disk = ending.disk := by
  have same := config_of invocation true invocation.command disk
  simp only [Ending.exitCode, perform_failure, perform_request, perform_disk, same]
  exact ⟨trivial, trivial, trivial, trivial⟩

end Invocation

/-- The arguments stand for an invocation. A request and a change of a file need an update whose
configuration is sound, and a change needs the page and the old feed too. The check succeeds exactly
if the update, with the same arguments otherwise, does not fail for its configuration, and details
change nothing but what is shown. -/
theorem effects_gated {arguments : List String}
    (parsed : usageOf arguments = .invocation invocation) (now : Instant) (network : Network)
    (disk : Disk) :
    let config := (invocation.config disk).1
    let ending := invocation.perform now network disk
    let updating := { invocation with command := .run }
    let checking := { invocation with command := .validate }
    let detailed := { invocation with verbose := true }
    (invocation.command ≠ .run ∨ config.validate ≠ .ok () →
        ending.request = none ∧ ending.disk = disk ∧
          ∀ other, invocation.perform now other disk = ending) ∧
      (ending.disk ≠ disk → ∃ client page stored, clientOf config.crawler = .ok client ∧
        (fetchPage network client config.source.pageUrl).result = .ok page ∧
        (Store.readFeed disk config.feed.outputPath).1 = .ok stored) ∧
      (∃ front back,
        (arguments = front ++ back ∧ invocation.command = .run ∨
          ∃ word, command? word = some invocation.command ∧ arguments = front ++ word :: back) ∧
        usageOf (front ++ back) = .invocation updating ∧
        usageOf (front ++ "run" :: back) = .invocation updating ∧
        usageOf (front ++ "validate" :: back) = .invocation checking) ∧
      (∀ later other, (checking.perform now network disk).exitCode = 0 ↔
        ∀ message, (updating.perform later other disk).failure ≠ some (.validation message)) ∧
      (invocation.verbose = false → usageOf ("-v" :: arguments) = .invocation detailed ∧
        let shown := detailed.perform now network disk
        shown.exitCode = ending.exitCode ∧ shown.failure = ending.failure ∧
          shown.request = ending.request ∧ shown.disk = ending.disk) := by
  intro config ending updating checking detailed
  refine ⟨fun gated => ?_, fun changed => ?_, ?_, fun later other => ?_, fun quiet => ?_⟩
  · have idle : invocation.command.Idle config now disk := by
      rcases gated with named | unsound
      · exact Command.idle_of_not_run named config now disk
      · exact Command.idle_of_unsound unsound _ now disk
    refine ⟨?_, ?_, fun other => ?_⟩
    · exact (invocation.perform_request now network disk).trans (idle.unasked network)
    · exact (invocation.perform_disk now network disk).trans (idle.untouched network)
    · simp only [ending, Invocation.perform]
      rw [idle.same other network]
  · simp only [ending, Invocation.perform_disk] at changed
    exact Command.perform_disk changed
  · obtain ⟨front, back, takes, spelled⟩ := (usageOf_eq_invocation_iff.mp parsed).takesWord
    exact ⟨front, back, spelled, takes.1.usageFrom_eq, (takes.2 "run" .run rfl).usageFrom_eq,
      (takes.2 "validate" .validate rfl).usageFrom_eq⟩
  · rw [Ending.exitCode_eq_zero_iff, Invocation.perform_failure, Invocation.perform_failure]
    exact validate_succeeds_iff.trans update_not_validation_iff.symm
  · exact ⟨usageOf_detailed parsed quiet, invocation.perform_detailed now network disk⟩

theorem check_gated :
    let checking : Invocation := { configPath := "feed.toml", command := .validate }
    let updating : Invocation := { configPath := "feed.toml" }
    usageOf ["-c", "feed.toml", "validate"] = .invocation checking ∧
      usageOf ["-v", "-c", "feed.toml", "validate"] =
        .invocation { checking with verbose := true } ∧
      ∀ now network disk, (checking.perform now network disk).request = none ∧
        (checking.perform now network disk).disk = disk ∧
        ((checking.perform now network disk).exitCode = 0 ↔
          ∀ message, (updating.perform now network disk).failure ≠ some (.validation message)) := by
  intro checking updating
  have parsed : usageOf ["-c", "feed.toml", "validate"] = .invocation checking := by decide
  refine ⟨parsed, by decide, fun now network disk => ?_⟩
  obtain ⟨gated, -, -, agrees, -⟩ := effects_gated parsed now network disk
  obtain ⟨unasked, untouched, -⟩ := gated (.inl (by decide))
  exact ⟨unasked, untouched, agrees now network⟩

end CommandLine

end IssueFeed
