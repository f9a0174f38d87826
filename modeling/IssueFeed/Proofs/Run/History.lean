import IssueFeed.Proofs.Feed.Reload
import IssueFeed.Proofs.Store.Replacing
import IssueFeed.Run.Update

/-! The history of a feed over any number of updates.
Between the updates only the disk remembers the feed. An update that fails leaves on it what was
recorded, and one that succeeds carries that on. -/
namespace IssueFeed

open Store (Disk Path)

/-- The issues that a page lists, the newest first. -/
def candidatesOn (config : Config) (page : String) : List Candidate :=
  (findings config.source (Html.Document.ofText page)).map (·.candidate)

/-- What an update records, given what is stored and the page. -/
def recording (config : Config) (now : Instant) (page : String) (stored : Option ByteArray) :
    Merge.Outcome :=
  (Channel.load config now stored).1.withPage config now page

theorem readFeed_eq_some_iff {disk : Disk} {location : String} {bytes : ByteArray} :
    (Store.readFeed disk location).1 = .ok (some bytes) ↔
      disk.read (Path.ofText location) = .ok bytes := by
  unfold Store.readFeed
  split <;> rename_i found <;> simp [found]

variable {config : Config} {now : Instant} {disk after : Disk}

/-- How an update goes: what it comes across on its way, and with which result and disk it ends. -/
inductive Course (config : Config) (now : Instant) (client : String) (network : Network)
    (disk : Disk) : Except Failure Summary → Disk → Prop where
  | unfetched (failure : Failure)
      (missed : (fetchPage network client config.source.pageUrl).result = .error failure) :
      Course config now client network disk (.error failure) disk
  | unread (page : String)
      (fetched : (fetchPage network client config.source.pageUrl).result = .ok page)
      (failure : Failure)
      (unreadable : (Store.readFeed disk config.feed.outputPath).1 = .error failure) :
      Course config now client network disk (.error failure) disk
  | unwritten (page : String)
      (fetched : (fetchPage network client config.source.pageUrl).result = .ok page)
      (stored : Option ByteArray)
      (found : (Store.readFeed disk config.feed.outputPath).1 = .ok stored)
      (fault : FileFault) (after : Disk)
      (failed : Store.replace disk (Path.ofText config.feed.outputPath)
        (recording config now page stored).channel.serialize = (after, some fault)) :
      Course config now client network disk (.error (.io fault)) after
  | recorded (page : String)
      (fetched : (fetchPage network client config.source.pageUrl).result = .ok page)
      (stored : Option ByteArray)
      (found : (Store.readFeed disk config.feed.outputPath).1 = .ok stored)
      (summary : Summary) (after : Disk)
      (added : summary.added = (recording config now page stored).added)
      (total : summary.total = (recording config now page stored).channel.items.length)
      (written : Store.replace disk (Path.ofText config.feed.outputPath)
        (recording config now page stored).channel.serialize = (after, none)) :
      Course config now client network disk (.ok summary) after

theorem runUpdate_course (config : Config) (now : Instant) (client : String) (network : Network)
    (disk : Disk) :
    Course config now client network disk (runUpdate config now client network disk).result
      (runUpdate config now client network disk).disk := by
  simp only [runUpdate]
  cases fetched : (fetchPage network client config.source.pageUrl).result with
  | error failure => exact .unfetched failure fetched
  | ok page =>
    simp only [storePage]
    rcases readLog : Store.readFeed disk config.feed.outputPath with ⟨failure | stored, log⟩
    · exact .unread page fetched failure (congrArg Prod.fst readLog)
    · have found := congrArg Prod.fst readLog
      simp only [Store.writeFeed]
      rcases written : Store.replace disk (Path.ofText config.feed.outputPath)
          (recording config now page stored).channel.serialize with ⟨after, fault | fault⟩
      · simp only [recording] at written
        simp only [written]
        exact .recorded page fetched stored found _ after rfl rfl written
      · simp only [recording] at written
        simp only [written]
        exact .unwritten page fetched stored found fault after written

/-! ## What is stored -/

/-- The channel that the feed's file holds, if it holds one. -/
def storedChannel (location : String) (disk : Disk) : Option Channel :=
  match (Store.readFeed disk location).1 with
  | .ok (some bytes) =>
    match Channel.parse bytes with
    | .ok channel => some channel
    | .error _ => none
  | _ => none

/-- Where a feed stands on a disk. -/
inductive Standing (location : String) (disk : Disk) : Option Channel → Prop
  | absent (unread : (Store.readFeed disk location).1 = .ok none) : Standing location disk none
  /-- Nothing can ever be written. -/
  | stuck (failed : ∀ bytes, (Store.replace disk (Path.ofText location) bytes).2 ≠ none) :
      Standing location disk none
  | holding (channel : Channel)
      (there : disk.read (Path.ofText location) = .ok channel.serialize) :
      Standing location disk (some channel.settled)

variable {location : String} {held : Option Channel}

theorem Standing.storedChannel {channel : Channel}
    (standing : Standing location disk (some channel)) :
    storedChannel location disk = some channel := by
  cases standing with
  | holding channel there =>
    simp only [IssueFeed.storedChannel, readFeed_eq_some_iff.mpr there, parse_serialize]

/-- What the next update starts from, as long as it can be written. -/
theorem Standing.load (standing : Standing location disk held) {stored : Option ByteArray}
    (found : (Store.readFeed disk location).1 = .ok stored)
    (possible : ∃ bytes, (Store.replace disk (Path.ofText location) bytes).2 = none)
    (config : Config) (now : Instant) :
    (∀ earlier, held = some earlier → (Channel.load config now stored).1.settled = earlier) ∧
      (Channel.load config now stored).1.settled.items = (held.map Channel.items).getD [] := by
  cases standing with
  | absent unread =>
    rw [unread] at found
    cases found
    exact ⟨nofun, rfl⟩
  | stuck failed =>
    obtain ⟨bytes, written⟩ := possible
    exact absurd written (failed bytes)
  | holding channel there =>
    rw [readFeed_eq_some_iff.mpr there] at found
    cases found
    have loaded : (Channel.load config now (some channel.serialize)).1 = channel.settled :=
      reload_eq config now channel
    rw [loaded, channel.settled_settled]
    exact ⟨fun _ same => Option.some.inj same, rfl⟩

/-- The later channel carries on what is held, by as many items as the summary says. -/
structure Extends (summary : Summary) (held : Option Channel) (later : Channel) : Prop where
  continues : ∀ earlier, held = some earlier → later.Continues earlier
  items : ∃ new, later.items = (held.map Channel.items).getD [] ++ new ∧
    new.length = summary.added
  total : summary.total = later.items.length

theorem recording_extends {summary : Summary} {page : String} {stored : Option ByteArray}
    (carried : ∀ earlier, held = some earlier →
      (Channel.load config now stored).1.settled = earlier)
    (before : (Channel.load config now stored).1.settled.items =
      (held.map Channel.items).getD [])
    (added : summary.added = (recording config now page stored).added)
    (total : summary.total = (recording config now page stored).channel.items.length) :
    Extends summary held (recording config now page stored).channel.settled := by
  unfold recording Channel.withPage at added total ⊢
  generalize (Channel.load config now stored).1 = loaded at carried before added total ⊢
  generalize (findings config.source _).map (·.candidate) = candidates at added total ⊢
  constructor
  · intro earlier same
    rw [← carried earlier same]
    exact (merge_continues config now loaded candidates).settled
  · refine ⟨((loaded.unrecorded candidates).map (Merge.itemFor config now)).map
      (Item.mapTexts settled), ?_, ?_⟩
    · rw [← before, Channel.settled, Channel.mapTexts, merge_items, List.map_append]
      rfl
    · rw [added, merge_added, List.length_map, List.length_map]
  · rw [total, Channel.settled, Channel.mapTexts, List.length_map]

/-! ## One update -/

/-- A call of the update, with whatever configuration, on the feed at a location. -/
structure Call (location : String) where
  config : Config
  stored : config.feed.outputPath = location
  now : Instant
  client : String
  network : Network

def Call.update (call : Call location) (disk : Disk) : Updated :=
  runUpdate call.config call.now call.client call.network disk

theorem update_standing (standing : Standing location disk held) (call : Call location) :
    (∃ failure, (call.update disk).result = .error failure ∧
        Standing location (call.update disk).disk held) ∨
      ∃ summary later, (call.update disk).result = .ok summary ∧
        Standing location (call.update disk).disk (some later) ∧ Extends summary held later := by
  obtain ⟨config, rfl, now, client, network⟩ := call
  have course := runUpdate_course config now client network disk
  simp only [Call.update]
  generalize (runUpdate config now client network disk).result = result at course ⊢
  generalize (runUpdate config now client network disk).disk = after at course ⊢
  cases course with
  | unfetched failure => exact .inl ⟨failure, rfl, standing⟩
  | unread page fetched failure => exact .inl ⟨failure, rfl, standing⟩
  | unwritten page fetched stored found fault after failed =>
    refine .inl ⟨_, rfl, ?_⟩
    cases standing with
    | absent _ => exact .stuck (Store.replace_fails_again failed)
    | stuck _ => exact .stuck (Store.replace_fails_again failed)
    | holding channel there => exact .holding channel (Store.replace_keeps_read there failed)
  | recorded page fetched stored found summary after added total written =>
    have possible := congrArg Prod.snd written
    obtain ⟨carried, before⟩ := standing.load found ⟨_, possible⟩ config now
    exact .inr ⟨summary, _, rfl, .holding _ (Store.replace_read written),
      recording_extends carried before added total⟩

/-! ## Any number of updates -/

def diskAfter (disk : Disk) (calls : List (Call location)) : Disk :=
  calls.foldl (fun disk call => (call.update disk).disk) disk

/-- Whether one of the calls succeeded. -/
def anySucceeded (disk : Disk) : List (Call location) → Bool
  | [] => false
  | call :: rest => (call.update disk).result.isOk || anySucceeded (call.update disk).disk rest

/-- The items recorded by a number of calls: none before the first that succeeds. -/
def recordedItems (disk : Disk) (calls : List (Call location)) : List Item :=
  if anySucceeded disk calls then
    ((storedChannel location (diskAfter disk calls)).map Channel.items).getD []
  else []

theorem diskAfter_append (disk : Disk) (calls later : List (Call location)) :
    diskAfter disk (calls ++ later) = diskAfter (diskAfter disk calls) later :=
  List.foldl_append

theorem diskAfter_standing (standing : Standing location disk held)
    (calls : List (Call location)) :
    ∃ last, Standing location (diskAfter disk calls) last ∧
      (∀ earlier, held = some earlier → ∃ later, last = some later ∧ later.Continues earlier) ∧
      (last.isSome = (held.isSome || anySucceeded disk calls)) := by
  -- The induction is on the calls: what is held at first is carried on by what is held at last.
  induction calls generalizing disk held with
  | nil =>
    refine ⟨held, standing, fun earlier same => ⟨earlier, same, .refl earlier⟩, ?_⟩
    rw [anySucceeded, Bool.or_false]
  | cons call calls ih =>
    rcases update_standing standing call with ⟨failure, failed, stands⟩ |
      ⟨summary, next, succeeded, stands, extends_⟩
    · obtain ⟨last, arrives, continues, any⟩ := ih stands
      refine ⟨last, arrives, continues, ?_⟩
      rw [any, anySucceeded, failed]
      rfl
    · obtain ⟨last, arrives, continues, any⟩ := ih stands
      obtain ⟨later, same, carried⟩ := continues next rfl
      refine ⟨last, arrives, fun earlier was => ?_, ?_⟩
      · exact ⟨later, same, carried.trans (extends_.continues earlier was)⟩
      · rw [any, anySucceeded, succeeded]
        simp [Except.isOk, Except.toBool]

theorem anySucceeded_append (disk : Disk) (calls : List (Call location)) (call : Call location) :
    anySucceeded disk (calls ++ [call]) =
      (anySucceeded disk calls || (call.update (diskAfter disk calls)).result.isOk) := by
  induction calls generalizing disk with
  | nil => exact Bool.or_false _
  | cons first calls ih =>
    rw [List.cons_append, anySucceeded, anySucceeded, ih, Bool.or_assoc]
    rfl

theorem Standing.recordedItems {calls : List (Call location)}
    (stands : Standing location (diskAfter disk calls) held)
    (any : held.isSome = anySucceeded disk calls) :
    recordedItems disk calls = (held.map Channel.items).getD [] := by
  cases held with
  | none =>
    rw [IssueFeed.recordedItems, if_neg]
    · rfl
    · simpa using any.symm
  | some earlier =>
    rw [IssueFeed.recordedItems, if_pos, stands.storedChannel]
    simpa using any.symm

/-- From where no feed is found, whatever is called: once a call has succeeded the stored feed can
always be read, it only ever grows at its end, and each success adds to it what its summary says. -/
theorem history_append_only (absent : (Store.readFeed disk location).1 = .ok none) :
    (∀ calls later : List (Call location), anySucceeded disk calls = true →
      ∃ earlier latest, storedChannel location (diskAfter disk calls) = some earlier ∧
        storedChannel location (diskAfter disk (calls ++ later)) = some latest ∧
        latest.Continues earlier) ∧
    ∀ (calls : List (Call location)) (call : Call location) (summary : Summary),
      (call.update (diskAfter disk calls)).result = .ok summary →
      ∃ channel new, storedChannel location (diskAfter disk (calls ++ [call])) = some channel ∧
        channel.items = recordedItems disk calls ++ new ∧ new.length = summary.added ∧
        summary.total = channel.items.length := by
  have start : Standing location disk none := .absent absent
  constructor
  · intro calls later succeeded
    obtain ⟨held, stands, -, any⟩ := diskAfter_standing start calls
    rw [succeeded] at any
    obtain ⟨earlier, rfl⟩ := Option.isSome_iff_exists.mp any
    obtain ⟨last, arrives, continues, -⟩ := diskAfter_standing stands later
    obtain ⟨latest, rfl, carried⟩ := continues earlier rfl
    rw [diskAfter_append]
    exact ⟨earlier, latest, stands.storedChannel, arrives.storedChannel, carried⟩
  · intro calls call summary accepted
    obtain ⟨held, stands, -, any⟩ := diskAfter_standing start calls
    have items := stands.recordedItems (by simpa using any)
    rcases update_standing stands call with ⟨failure, failed, -⟩ |
      ⟨reported, later, succeeded, arrives, extends_⟩
    · rw [failed] at accepted
      cases accepted
    · rw [succeeded] at accepted
      cases accepted
      obtain ⟨new, together, length⟩ := extends_.items
      refine ⟨later, new, ?_, items ▸ together, length, extends_.total⟩
      rw [diskAfter_append]
      exact arrives.storedChannel

/-! ## Updates that cannot fail -/

/-- What is at the location can be read, and whatever is to be stored there can be written. -/
structure Ready (location : String) (disk : Disk) : Prop where
  readable : ∃ stored, (Store.readFeed disk location).1 = .ok stored
  writable : ∀ bytes, (Store.replace disk (Path.ofText location) bytes).2 = none

/-- Where the page is fetched the update succeeds and leaves the disk ready for the next one. -/
theorem Ready.update (ready : Ready location disk) {call : Call location} {page : String}
    (fetched : (fetchPage call.network call.client call.config.source.pageUrl).result = .ok page) :
    (∃ summary, (call.update disk).result = .ok summary) ∧
      Ready location (call.update disk).disk := by
  obtain ⟨config, rfl, now, client, network⟩ := call
  obtain ⟨stored, found⟩ := ready.readable
  have course := runUpdate_course config now client network disk
  simp only [Call.update] at fetched ⊢
  generalize (runUpdate config now client network disk).result = result at course ⊢
  generalize (runUpdate config now client network disk).disk = after at course ⊢
  cases course with
  | unfetched failure missed =>
    rw [fetched] at missed
    cases missed
  | unread _ _ failure unreadable =>
    rw [found] at unreadable
    cases unreadable
  | unwritten _ _ _ _ fault after failed =>
    cases (congrArg Prod.snd failed).symm.trans (ready.writable _)
  | recorded _ _ _ _ summary after _ _ written =>
    have held := readFeed_eq_some_iff.mpr (Store.replace_read written)
    refine ⟨⟨summary, rfl⟩, ⟨_, held⟩, fun bytes => ?_⟩
    obtain ⟨later, again⟩ := Store.replace_again written bytes
    rw [again]

theorem fresh_absent : (Store.readFeed (Disk.fresh []) "feed.xml").1 = .ok none := by
  decide

theorem fresh_ready : Ready "feed.xml" (Disk.fresh []) :=
  ⟨⟨none, fresh_absent⟩, fun _ => rfl⟩

/-- A page that is no issue list, got from an address without a name. -/
def plainCall : Call "feed.xml" where
  config := { source := { pageUrl := "http://[::]" }, feed := { outputPath := "feed.xml" } }
  stored := rfl
  now := ⟨2024, 1, 1, 12, 0, 0, 0, 0⟩
  client := "reader"
  network := fun _ => .answered { body := "soon".toUTF8 }

/-- The same with another page. -/
def pageCall (body : String) : Call "feed.xml" :=
  { plainCall with network := fun _ => .answered { body := body.toUTF8 } }

/-- On an empty disk the first update starts a feed and the second carries it on. -/
theorem history_on_empty_disk :
    anySucceeded (Disk.fresh []) [plainCall] = true ∧
      (∃ earlier latest,
        storedChannel "feed.xml" (diskAfter (Disk.fresh []) [plainCall]) = some earlier ∧
        storedChannel "feed.xml" (diskAfter (Disk.fresh []) [plainCall, plainCall]) =
          some latest ∧ latest.Continues earlier) ∧
      ∃ summary channel, (plainCall.update (Disk.fresh [])).result = .ok summary ∧
        storedChannel "feed.xml" (diskAfter (Disk.fresh []) [plainCall]) = some channel ∧
        channel.items.length = summary.added ∧ summary.total = channel.items.length := by
  have succeeds : anySucceeded (Disk.fresh []) [plainCall] = true := by decide
  obtain ⟨growing, counted⟩ := history_append_only fresh_absent
  refine ⟨succeeds, growing [plainCall] [plainCall] succeeds, ?_⟩
  cases result : (plainCall.update (Disk.fresh [])).result with
  | error failure =>
    rw [anySucceeded, result] at succeeds
    cases succeeds
  | ok summary =>
    obtain ⟨channel, new, there, items, length, total⟩ := counted [] plainCall summary result
    refine ⟨summary, channel, rfl, there, ?_, total⟩
    rw [items, ← length]
    rfl

end IssueFeed
