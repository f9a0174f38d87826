import IssueFeed.CommandLine.Program
import IssueFeed.Proofs.Run.Provenance

/-! The report on a feed and the update of it.
Both look at the stored feed by themselves, and they see the same; after an update the report shows
what the update has said of itself. -/
namespace IssueFeed

open Store (Disk Path)

variable {config : Config} {now : Instant} {client : String} {network : Network} {disk : Disk}

/-- A fresh channel has no items, so how many there are does not depend on the clock. -/
theorem load_items (config : Config) (now later : Instant) (stored : Option ByteArray) :
    (Channel.load config now stored).1.items = (Channel.load config later stored).1.items := by
  unfold Channel.load
  cases stored with
  | none => rfl
  | some bytes =>
    dsimp only
    split_ifs
    · rfl
    · cases Channel.parse bytes <;> rfl

theorem load_stored (config : Config) (now : Instant) (channel : Channel) :
    (Channel.load config now (some channel.serialize)).1 = channel.settled :=
  reload_eq config now channel

theorem runInfo_eq_ok_iff {info : FeedInfo} :
    (runInfo config now disk).1 = .ok info ↔
      ∃ stored, (Store.readFeed disk config.feed.outputPath).1 = .ok stored ∧
        FeedInfo.ofStored config now stored = info := by
  unfold runInfo
  rcases Store.readFeed disk config.feed.outputPath with ⟨failure | stored, log⟩ <;> simp

/-- How an update that succeeds went, with all that it says of itself. -/
theorem runUpdate_succeeded {summary : Summary}
    (accepted : (runUpdate config now client network disk).result = .ok summary) :
    ∃ page stored, (fetchPage network client config.source.pageUrl).result = .ok page ∧
      (Store.readFeed disk config.feed.outputPath).1 = .ok stored ∧
      let outcome := recording config now page stored
      Store.replace disk (Path.ofText config.feed.outputPath) outcome.channel.serialize =
        ((runUpdate config now client network disk).disk, none) ∧
      summary =
        { added := outcome.added
          total := outcome.channel.items.length
          firstRun := (Channel.load config now stored).1.items.isEmpty
          bytesWritten := outcome.channel.serialize.size
          location := config.feed.outputPath } := by
  have course := runUpdate_course config now client network disk
  rw [accepted] at course
  cases course with
  | recorded page fetched stored found _ _ _ _ written =>
    refine ⟨page, stored, fetched, found, written, ?_⟩
    simp only [recording] at written
    simp only [runUpdate, fetched, storePage] at accepted
    rcases readLog : Store.readFeed disk config.feed.outputPath with ⟨result, log⟩
    obtain rfl : result = .ok stored := (congrArg Prod.fst readLog).symm.trans found
    simp only [readLog, Store.writeFeed, written] at accepted
    exact (Except.ok.inj accepted).symm

/-- What a merge records stands at the top of the page. -/
theorem unrecorded_eq_take (config : Config) (now : Instant) (channel : Channel)
    (candidates : List Candidate) :
    channel.unrecorded candidates =
      candidates.take (merge config now channel candidates).added := by
  rw [merge_added]
  exact List.prefix_iff_eq_take.mp (Merge.unrecorded_prefix _ _)

/-- A recorded link is read again as it was trimmed, so the last one is found at the end. -/
theorem latest_recorded (config : Config) (now : Instant) (channel : Channel)
    {candidates : List Candidate} {newest : Candidate}
    (last : (channel.unrecorded candidates).getLast? = some newest) :
    (merge config now channel candidates).channel.settled.newestFirst.head?.map (·.link) =
      some (Text.trim newest.link) := by
  rw [Channel.newestFirst, List.head?_reverse, Channel.settled, Channel.mapTexts, merge_items,
    List.map_append, List.getLast?_append, List.getLast?_map, List.getLast?_map, last]
  simp only [Option.map_some, Option.some_or, Option.some.injEq]
  exact (settled_eq_self_iff _).mpr (trim_kept _)

/-- What is reported where a channel is stored. -/
theorem runInfo_stored {channel : Channel}
    (stored : disk.read (Path.ofText config.feed.outputPath) = .ok channel.serialize) :
    (runInfo config now disk).1 = .ok
      { location := config.feed.outputPath
        present := true
        itemCount := channel.items.length
        lastBuildDate := channel.settled.lastBuildDate
        latestLink := channel.settled.newestFirst.head?.map (·.link) } := by
  refine runInfo_eq_ok_iff.mpr ⟨_, readFeed_eq_some_iff.mpr stored, ?_⟩
  simp only [FeedInfo.ofStored, load_stored, Option.isSome_some]
  rw [Channel.settled, Channel.mapTexts, List.length_map]

/-- Whatever the feed's file was: an update counts from what was reported before it, and what is
reported after it is what it has said of itself. The clocks need not agree. -/
theorem report_agrees_with_update {later : Instant} {info : FeedInfo} {summary : Summary}
    (reported : (runInfo config now disk).1 = .ok info)
    (updated : (runUpdate config later client network disk).result = .ok summary) :
    (CommandLine.Command.info.perform config now network disk).disk = disk ∧
      (summary.firstRun = true ↔ info.itemCount = 0) ∧
      summary.total = info.itemCount + summary.added ∧ summary.location = info.location ∧
      ∃ page bytes, (fetchPage network client config.source.pageUrl).result = .ok page ∧
        let after := (runUpdate config later client network disk).disk
        after.read (Path.ofText config.feed.outputPath) = .ok bytes ∧
        bytes.size = summary.bytesWritten ∧
        ∀ last : Instant, ∃ again, (runInfo config last after).1 = .ok again ∧
          again.present = true ∧ again.location = info.location ∧
          again.itemCount = summary.total ∧
          (0 < summary.added → ∃ newest,
            ((candidatesOn config page).take summary.added).getLast? = some newest ∧
              again.latestLink = some (Text.trim newest.link)) := by
  obtain ⟨stored, found, rfl⟩ := runInfo_eq_ok_iff.mp reported
  obtain ⟨page, again, fetched, foundAgain, written, said⟩ := runUpdate_succeeded updated
  obtain rfl : stored = again := Except.ok.inj (found.symm.trans foundAgain)
  generalize (runUpdate config later client network disk).disk = after at written ⊢
  have before : (Channel.load config now stored).1.items =
      (Channel.load config later stored).1.items := load_items config now later stored
  have held := Store.replace_read written
  have grown : summary.total = (Channel.load config later stored).1.items.length +
      summary.added := by
    rw [said]
    simp only [recording, Channel.withPage, merge_items, merge_added, List.length_append,
      List.length_map]
  refine ⟨rfl, ?_, ?_, ?_, page, _, fetched, held, ?_, ?_⟩
  · rw [said, FeedInfo.ofStored, before, List.length_eq_zero_iff, List.isEmpty_iff]
  · rw [FeedInfo.ofStored, before, grown]
  · rw [said]
    rfl
  · rw [said]
  · intro last
    refine ⟨_, runInfo_stored held, rfl, rfl, ?_, fun some_added => ?_⟩
    · rw [said]
    · have first := unrecorded_eq_take config later (Channel.load config later stored).1
        (candidatesOn config page)
      have nonempty : (Channel.load config later stored).1.unrecorded (candidatesOn config page) ≠
          [] := by
        rw [← List.length_pos_iff, ← merge_added config later]
        rw [said] at some_added
        exact some_added
      obtain ⟨newest, ends⟩ := Option.isSome_iff_exists.mp (List.getLast?_isSome.mpr nonempty)
      refine ⟨newest, ?_, latest_recorded config later _ ends⟩
      rw [said, ← ends, first]
      rfl

/-! ## A feed with an item, carried on -/

/-- Its title is read without the blank. -/
def paddedFeed : Channel := { title := " ]]>", items := [{ link := "https://goslar.de/0.pdf" }] }

def paddedDisk : Disk := (Disk.fresh []).put ["feed.xml"] (.file paddedFeed.serialize)

theorem paddedDisk_read : paddedDisk.read (Path.ofText "feed.xml") = .ok paddedFeed.serialize :=
  @Disk.read_file paddedDisk _ [] "feed.xml" _ (by decide) rfl

theorem paddedDisk_ready : Ready "feed.xml" paddedDisk :=
  ⟨⟨_, readFeed_eq_some_iff.mpr paddedDisk_read⟩, fun _ => rfl⟩

theorem firstIssue_unknown : linkKey firstIssue.link ∉ paddedFeed.linkKeys := by
  intro known
  have keys : linkKey firstIssue.link = linkKey "https://goslar.de/0.pdf" :=
    List.mem_singleton.mp known
  have same := congrArg String.toList keys
  rw [linkKey, linkKey, String.toList_ofList, String.toList_ofList] at same
  exact absurd same (by decide)

theorem firstPage_candidates : candidatesOn plainCall.config firstPage = [firstIssue] := by
  rw [← pageCall_listed (by decide), firstPage_listed]

theorem firstPage_recorded (now : Instant) :
    (recording plainCall.config now firstPage (some paddedFeed.serialize)).added = 1 := by
  rw [recording, load_stored, Channel.withPage, merge_added, ← candidatesOn, firstPage_candidates,
    Channel.unrecorded_settled, Channel.unrecorded, Merge.unrecorded, if_neg firstIssue_unknown]
  rfl

theorem padded_feed_carried_on :
    let call := pageCall firstPage
    ∃ info summary again, (runInfo call.config call.now paddedDisk).1 = .ok info ∧
      (call.update paddedDisk).result = .ok summary ∧
      (runInfo call.config call.now (call.update paddedDisk).disk).1 = .ok again ∧
      info.itemCount = 1 ∧ summary.firstRun = false ∧ summary.total = 2 ∧ again.itemCount = 2 ∧
      again.latestLink = some firstIssue.link := by
  intro call
  obtain ⟨summary, updated⟩ : ∃ summary, (call.update paddedDisk).result = .ok summary :=
    (paddedDisk_ready.update firstPage_fetched).1
  have reported : (runInfo call.config call.now paddedDisk).1 = .ok _ :=
    runInfo_stored paddedDisk_read
  obtain ⟨-, first, total, -, page, bytes, fetched, -, -, shows⟩ :=
    report_agrees_with_update reported updated
  obtain rfl : page = firstPage := Except.ok.inj (fetched.symm.trans firstPage_fetched)
  have one : summary.added = 1 := by
    obtain ⟨page, other, fetchedThen, foundThen, -, said⟩ := runUpdate_succeeded updated
    obtain rfl : page = firstPage := Except.ok.inj (fetchedThen.symm.trans firstPage_fetched)
    obtain rfl : other = some paddedFeed.serialize := Except.ok.inj
      (foundThen.symm.trans (readFeed_eq_some_iff.mpr paddedDisk_read))
    rw [said]
    exact firstPage_recorded _
  obtain ⟨again, shown, -, -, count, latest⟩ := shows call.now
  obtain ⟨newest, last, link⟩ := latest (by rw [one]; exact Nat.one_pos)
  have only : (candidatesOn call.config firstPage).take 1 = [firstIssue] :=
    congrArg (List.take 1) firstPage_candidates
  rw [one, only] at last
  cases last
  refine ⟨_, summary, again, reported, updated, shown, rfl, ?_, ?_, ?_, ?_⟩
  · exact Bool.eq_false_iff.mpr fun fresh => absurd (first.mp fresh) (by decide)
  · rw [total, one]
    rfl
  · rw [count, total, one]
    rfl
  · rw [link]
    decide

end IssueFeed
