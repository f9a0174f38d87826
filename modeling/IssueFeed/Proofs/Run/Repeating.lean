import IssueFeed.Proofs.Run.History

/-! Updates repeated from one page.
Once a page is recorded the feed knows the first issue on it, so a further update records nothing.
It only stores again what it has read, and that settles with the first repetition. -/
namespace IssueFeed

open Store (Disk Path)

variable {config : Config} {client : String} {network : Network} {page : String} {disk : Disk}
  {channel : Channel}

/-- All that a page lists is recorded, and the feed can be written again. -/
structure CaughtUp (config : Config) (page : String) (disk : Disk) (channel : Channel) : Prop where
  stored : disk.read (Path.ofText config.feed.outputPath) = .ok channel.serialize
  complete : channel.unrecorded (candidatesOn config page) = []
  writable : ∀ bytes, ∃ after,
    Store.replace disk (Path.ofText config.feed.outputPath) bytes = (after, none)

theorem recording_complete (now : Instant)
    (complete : channel.unrecorded (candidatesOn config page) = []) :
    (recording config now page (some channel.serialize)).channel = channel.settled ∧
      (recording config now page (some channel.serialize)).added = 0 := by
  have loaded : (Channel.load config now (some channel.serialize)).1 = channel.settled :=
    reload_eq config now channel
  have nothing := (channel.unrecorded_settled (candidatesOn config page)).trans complete
  rw [recording, loaded]
  constructor
  · exact (merge_channel config now _ _).trans (by rw [← candidatesOn, nothing]; rfl)
  · exact (merge_added config now _ _).trans (by rw [← candidatesOn, nothing]; rfl)

theorem CaughtUp.settled (caught : CaughtUp config page disk channel) {after : Disk}
    (written : Store.replace disk (Path.ofText config.feed.outputPath)
      channel.settled.serialize = (after, none)) : CaughtUp config page after channel.settled where
  stored := Store.replace_read written
  complete := (channel.unrecorded_settled _).trans caught.complete
  writable := Store.replace_again written

/-- An update from the page that is recorded already succeeds and adds nothing. -/
theorem CaughtUp.update (caught : CaughtUp config page disk channel)
    (fetched : (fetchPage network client config.source.pageUrl).result = .ok page)
    (now : Instant) :
    (∃ report, (runUpdate config now client network disk).result = .ok report ∧
        report.added = 0 ∧ report.total = channel.items.length) ∧
      CaughtUp config page (runUpdate config now client network disk).disk channel.settled := by
  have course := runUpdate_course config now client network disk
  have unchanged := readFeed_eq_some_iff.mpr caught.stored
  generalize (runUpdate config now client network disk).result = result at course ⊢
  generalize (runUpdate config now client network disk).disk = after at course ⊢
  cases course with
  | unfetched failure missed =>
    rw [fetched] at missed
    cases missed
  | unread page _ failure unreadable =>
    rw [unchanged] at unreadable
    cases unreadable
  | unwritten page _ stored found fault after failed =>
    obtain ⟨possible, written⟩ :=
      caught.writable (recording config now page stored).channel.serialize
    rw [failed] at written
    cases written
  | recorded again refetched stored found summary after added total written =>
    rw [fetched] at refetched
    rw [unchanged] at found
    cases refetched
    cases found
    obtain ⟨same, none_added⟩ := recording_complete now caught.complete
    rw [same] at total written
    rw [none_added] at added
    refine ⟨⟨summary, rfl, added, ?_⟩, caught.settled written⟩
    rw [total, Channel.settled, Channel.mapTexts, List.length_map]

/-- The disk after updates at these times. -/
def updatedAt (config : Config) (client : String) (network : Network) (disk : Disk)
    (times : List Instant) : Disk :=
  times.foldl (fun disk now => (runUpdate config now client network disk).disk) disk

theorem CaughtUp.updatedAt (caught : CaughtUp config page disk channel)
    (fetched : (fetchPage network client config.source.pageUrl).result = .ok page)
    (times : List Instant) :
    ∃ held, held.settled = channel.settled ∧
      CaughtUp config page (updatedAt config client network disk times) held := by
  -- The induction is on the times; what is held differs from the first only as long as it is not
  -- settled.
  induction times generalizing disk channel with
  | nil => exact ⟨channel, rfl, caught⟩
  | cons now times ih =>
    obtain ⟨held, same, caughtLater⟩ := ih (caught.update fetched now).2
    exact ⟨held, same.trans channel.settled_settled, caughtLater⟩

/-- After an update has succeeded, however often it is repeated from the same page and whenever, it
succeeds and adds nothing. The first repetition leaves the feed as it is read and written again, and
each further one leaves it byte for byte; the first does so too unless a text loses blanks. -/
theorem repeated_update_adds_nothing {now : Instant} {summary : Summary}
    (succeeded : (runUpdate config now client network disk).result = .ok summary) :
    let after := (runUpdate config now client network disk).disk
    let path := Path.ofText config.feed.outputPath
    ∃ page stored kept,
      (fetchPage network client config.source.pageUrl).result = .ok page ∧
      (Store.readFeed disk config.feed.outputPath).1 = .ok stored ∧
      let merged := (recording config now page stored).channel
      after.read path = .ok merged.serialize ∧
      Channel.parse merged.serialize = .ok kept ∧
      (∀ (times : List Instant) (later : Instant),
        let again := runUpdate config later client network
          (updatedAt config client network after times)
        (∃ report, again.result = .ok report ∧ report.added = 0 ∧
          report.total = summary.total) ∧
        again.disk.read path = .ok kept.serialize) ∧
      ((∀ text ∈ merged.texts, ¬ LosesBlanks text) → kept.serialize = merged.serialize) := by
  have course := runUpdate_course config now client network disk
  rw [succeeded] at course
  generalize (runUpdate config now client network disk).disk = after at course ⊢
  cases course with
  | recorded page fetched stored found _ _ added total written =>
    have caught : CaughtUp config page after (recording config now page stored).channel :=
      ⟨Store.replace_read written, unrecorded_merge config now _ _, Store.replace_again written⟩
    refine ⟨page, stored, _, fetched, found, caught.stored, parse_serialize _, ?_, ?_⟩
    · intro times later
      obtain ⟨held, same, caughtThen⟩ := caught.updatedAt fetched times
      obtain ⟨⟨report, again, none_added, count⟩, caughtLater⟩ := caughtThen.update fetched later
      have kept := congrArg (fun channel => channel.items.length) same
      simp only [Channel.settled, Channel.mapTexts, List.length_map] at kept
      refine ⟨⟨report, again, none_added, ?_⟩, same ▸ caughtLater.stored⟩
      rw [count, kept, total]
    · intro clean
      have unchanged := (Channel.mapTexts_eq_self_iff _).mpr fun text member =>
        (settled_eq_self_iff text).mpr (clean text member)
      rw [Channel.settled, unchanged]

/-- A page with an issue is recorded over a file that is no feed, and then not again. -/
theorem repeated_update_over_other_file :
    let disk := (Disk.fresh []).put ["feed.xml"] (.file "<rss><".toUTF8)
    let call := pageCall "<a href=/seniorenzeitung/1.pdf>"
    ∃ summary report, (call.update disk).result = .ok summary ∧
      (call.update (call.update disk).disk).result = .ok report ∧
      report.added = 0 ∧ report.total = summary.total := by
  intro disk call
  have succeeds : (call.update disk).result.isOk = true := by decide
  cases first : (call.update disk).result with
  | error failure =>
    rw [first] at succeeds
    cases succeeds
  | ok summary =>
    obtain ⟨page, stored, kept, _, _, _, _, repeats, _⟩ := repeated_update_adds_nothing first
    obtain ⟨⟨report, again, none_added, total⟩, -⟩ := repeats [] call.now
    exact ⟨summary, report, rfl, again, none_added, total⟩

end IssueFeed
