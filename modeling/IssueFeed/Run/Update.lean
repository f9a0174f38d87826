import IssueFeed.Html.Construction
import IssueFeed.Page.Issue
import IssueFeed.Rss.Render
import IssueFeed.Run.Info
import IssueFeed.Web.Fetch

/-!
One update of the feed: the page is fetched, the issues on it that are new are recorded, and the
feed is stored again. A page that cannot be had leaves the feed as it is.
-/
namespace IssueFeed

open Store (Disk)

structure Summary where
  added : Nat
  total : Nat
  /-- There was no feed with items before. -/
  firstRun : Bool
  bytesWritten : Nat
  location : String
  deriving DecidableEq, Repr

/-- The channel that a page makes of another. -/
def Channel.withPage (config : Config) (now : Instant) (channel : Channel) (page : String) :
    Merge.Outcome :=
  merge config now channel
    ((findings config.source (Html.Document.ofText page)).map (·.candidate))

/-- What is reported while a page is merged. Each issue is read when it is looked at. -/
def pageLog (config : Config) (now : Instant) (channel : Channel) (page : String) : Log :=
  let found := findings config.source (Html.Document.ofText page)
  let outcome := merge config now channel (found.map (·.candidate))
  if found.isEmpty then [⟨.warn, s!"No issue links found on {config.source.pageUrl}"⟩]
  else (List.zipWith (fun finding report => finding.log ++ report) found outcome.reports).flatten

/-- What is left of a run: its result, its reports, the disk after it, and the request if one
reached a server. -/
structure Updated where
  result : Except Failure Summary
  log : Log
  disk : Disk
  request : Option Request

def storePage (config : Config) (now : Instant) (page : String) (disk : Disk) :
    Except Failure Summary × Log × Disk :=
  let location := config.feed.outputPath
  match Store.readFeed disk location with
  | (.error failure, log) => (.error failure, log, disk)
  | (.ok stored, readLog) =>
    let (channel, loadLog) := Channel.load config now stored
    let outcome := channel.withPage config now page
    let log := readLog ++ loadLog ++ pageLog config now channel page
    match Store.writeFeed disk location outcome.channel.serialize with
    | (.error failure, writeLog, disk) => (.error failure, log ++ writeLog, disk)
    | (.ok written, writeLog, disk) =>
      (.ok
        { added := outcome.added
          total := outcome.channel.items.length
          firstRun := channel.items.isEmpty
          bytesWritten := written.bytesWritten
          location := written.location },
        log ++ writeLog ++
          [⟨.info, s!"{outcome.added} new entries saved to {written.location}"⟩,
            ⟨.debug, s!"Feed document is {written.bytesWritten} bytes"⟩],
        disk)

/-- Updates the feed that a disk holds from the page that a network has. -/
def runUpdate (config : Config) (now : Instant) (client : String) (network : Network)
    (disk : Disk) : Updated :=
  let opening : Log := [⟨.info, s!"Fetching {config.source.pageUrl}"⟩]
  let fetched := fetchPage network client config.source.pageUrl
  match fetched.result with
  | .error failure => ⟨.error failure, opening ++ fetched.log, disk, fetched.request⟩
  | .ok page =>
    let (result, log, disk) := storePage config now page disk
    ⟨result, opening ++ fetched.log ++ log, disk, fetched.request⟩

end IssueFeed
