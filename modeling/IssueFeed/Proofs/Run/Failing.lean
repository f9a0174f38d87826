import IssueFeed.Proofs.Run.History
import IssueFeed.Proofs.Store.Moments

/-! An update that fails spares the feed.
As long as nothing is to be written the disk is left as it is. Where the writing fails, directories
above the feed may have been made and the temporary file may be there, but the feed itself is what
it was. -/
namespace IssueFeed

open Store (Disk Path)

variable {config : Config} {now : Instant} {client : String} {network : Network} {disk : Disk}

theorem writeFeed_failed {location : String} {bytes : ByteArray} {after : Disk} {fault : FileFault}
    (failed : Store.replace disk (Path.ofText location) bytes = (after, some fault)) :
    (Store.writeFeed disk location bytes).1 = .error (.io fault) := by
  rw [Store.writeFeed, failed]

/-- When an update fails, what can be read at the feed's path is what could be read before, unless
the path goes up out of a directory that was missing. The disk is as before if the page could not be
had or the old feed could not be read; otherwise the feed could not be written, and only things
beside it differ. -/
theorem failed_update_spares_feed (tree : disk.IsTree) {failure : Failure}
    (failed : (runUpdate config now client network disk).result = .error failure) :
    let after := (runUpdate config now client network disk).disk
    let location := config.feed.outputPath
    let path := Path.ofText location
    let fetched := (fetchPage network client config.source.pageUrl).result
    (after.content path = disk.content path ∨ disk.Uncovers after path) ∧
      (fetched = .error failure ∧ after = disk ∨
        ∃ page, fetched = .ok page ∧
          ((Store.readFeed disk location).1 = .error failure ∧ after = disk ∨
            ∃ stored, (Store.readFeed disk location).1 = .ok stored ∧
              (Store.writeFeed disk location
                (recording config now page stored).channel.serialize).1 = .error failure ∧
              Store.OnlyAside path disk after)) := by
  have course := runUpdate_course config now client network disk
  rw [failed] at course
  generalize (runUpdate config now client network disk).disk = after at course ⊢
  cases course with
  | unfetched _ missed => exact ⟨.inl rfl, .inl ⟨missed, rfl⟩⟩
  | unread page fetched _ unreadable =>
    exact ⟨.inl rfl, .inr ⟨page, fetched, .inl ⟨unreadable, rfl⟩⟩⟩
  | unwritten page fetched stored found fault after unwritten =>
    refine ⟨Store.replace_failed_content tree unwritten, .inr ⟨page, fetched, .inr ?_⟩⟩
    exact ⟨stored, found, writeFeed_failed unwritten, Store.replace_failed_aside unwritten⟩

/-- A feed whose temporary file cannot be created, because a directory has its name. -/
def blockedFeed : Disk :=
  Store.builtBy (Store.oldFeed "feed.xml" ++ [.directory (Path.ofText "feed.tmp")])

theorem failed_update_of_blocked_feed :
    let path := Path.ofText "feed.xml"
    (plainCall.update blockedFeed).result = .error (.io .isADirectory) ∧
      (plainCall.update blockedFeed).disk.content path = some "old".toUTF8 ∧
      Store.OnlyAside path blockedFeed (plainCall.update blockedFeed).disk := by
  intro path
  have fails : (plainCall.update blockedFeed).result = .error (.io .isADirectory) := by
    decide
  have readable : (Store.readFeed blockedFeed "feed.xml").1 = .ok (some "old".toUTF8) := by
    decide
  have held : blockedFeed.content path = some "old".toUTF8 :=
    Disk.content_eq_some_iff.mpr (readFeed_eq_some_iff.mp readable)
  have tree : blockedFeed.IsTree := Store.builtBy_isTree _
  obtain ⟨spared, missed | ⟨page, fetched, unread | ⟨stored, found, unwritten, aside⟩⟩⟩ :=
    failed_update_spares_feed tree fails
  · exact absurd missed.1 (by decide)
  · cases readable.symm.trans unread.1
  · refine ⟨fails, ?_, aside⟩
    rcases spared with kept | shown
    · exact kept.trans held
    · exact absurd shown.climbs (by decide)

/-- By a path that goes up out of a missing directory nothing is found before the update; the
directory is made, and although the update fails the file that was there all along is found. -/
theorem failed_update_uncovers :
    let path := Path.ofText "sub/../feed.xml"
    let call : Call "sub/../feed.xml" :=
      { plainCall with
        config := { plainCall.config with feed := { outputPath := "sub/../feed.xml" } }
        stored := rfl }
    (call.update blockedFeed).result = .error (.io .isADirectory) ∧
      blockedFeed.content path = none ∧
      (call.update blockedFeed).disk.content path = some "old".toUTF8 := by
  decide

end IssueFeed
