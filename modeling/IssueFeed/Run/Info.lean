import IssueFeed.Feed.Load
import IssueFeed.Store.FeedFile

/-!
A report on the stored feed. It looks at no page and changes no file.
-/
namespace IssueFeed

open Store (Disk)

structure FeedInfo where
  location : String
  present : Bool
  itemCount : Nat
  lastBuildDate : Option String
  latestLink : Option String
  deriving DecidableEq, Repr

def FeedInfo.ofStored (config : Config) (now : Instant) (stored : Option ByteArray) : FeedInfo :=
  let channel := (Channel.load config now stored).1
  { location := config.feed.outputPath
    present := stored.isSome
    itemCount := channel.items.length
    lastBuildDate := channel.lastBuildDate
    latestLink := channel.newestFirst.head?.map (·.link) }

def FeedInfo.report (info : FeedInfo) : Log :=
  let opening : Log := [⟨.info, s!"Feed file: {info.location}"⟩]
  let updated := info.lastBuildDate.getD "never"
  if info.present then
    opening ++
      [⟨.info, s!"Items: {info.itemCount}"⟩,
        ⟨.info, s!"Last updated: {updated}"⟩] ++
      (info.latestLink.toList.map fun link => ⟨.info, s!"Latest issue: {link}"⟩)
  else opening ++ [⟨.info, "No feed written yet."⟩]

def runInfo (config : Config) (now : Instant) (disk : Disk) : Except Failure FeedInfo × Log :=
  match Store.readFeed disk config.feed.outputPath with
  | (.error failure, log) => (.error failure, log)
  | (.ok stored, log) =>
    let info := FeedInfo.ofStored config now stored
    (.ok info, log ++ (Channel.load config now stored).2 ++ info.report)

end IssueFeed
