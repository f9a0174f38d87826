import IssueFeed.Config.Basic
import IssueFeed.Date.Stamp
import IssueFeed.Feed.Candidate
import IssueFeed.Feed.Channel
import IssueFeed.Log
import IssueFeed.Text.Alphabet
import IssueFeed.Text.Quoted

/-!
Merging a page into the feed. The page lists its issues newest first, so its links are taken in
order up to the first that is recorded already; what follows was recorded by earlier runs.
-/
namespace IssueFeed

def Channel.fresh (feed : FeedConfig) (pageUrl : String) (year : Int) : Channel where
  title := feed.title
  link := pageUrl
  description := feed.description
  copyright := feed.copyrightHolder ++ " " ++ String.ofList (Text.signedDecimal year)
  language := feed.language

namespace Merge

/-- The stamp of a new item. A format in which nothing can be written gives way to the plain one,
with a warning. -/
def stamp (feed : FeedConfig) (now : Instant) : String × Log :=
  match Date.stamp? feed.dateFormat now with
  | some text => (text, [])
  | none =>
    ((Date.stamp? Date.plainFormat now).getD "",
      [⟨.warn, s!"Invalid date format {Text.quoted feed.dateFormat}, using {Date.plainFormat}"⟩])

/-- The thumbnail after a candidate: its own if it has one, else the one before. A feed without
items has none before, whatever its channel says. -/
def imageAfter (config : Config) (channel : Channel) (candidate : Candidate) : Image :=
  match candidate.imageUrl with
  | some url => ⟨url, config.feed.imageTitle, config.source.pageUrl⟩
  | none => if channel.items.isEmpty then {} else channel.image.getD {}

def itemOf (config : Config) (stamp : String) (candidate : Candidate) : Item where
  link := Text.trim candidate.link
  title := config.feed.itemTitle
  description := (candidate.description.map Text.plain).getD ""
  pubDate := stamp

def record (config : Config) (now : Instant) (channel : Channel) (candidate : Candidate) :
    Channel :=
  let stamp := (stamp config.feed now).1
  { channel with
    image := some (imageAfter config channel candidate)
    lastBuildDate := some stamp
    items := channel.items ++ [itemOf config stamp candidate] }

/-- What a merge gives: the channel, how many items are new, and what was reported on each candidate
that was looked at. -/
structure Outcome where
  channel : Channel
  added : Nat
  reports : List Log
  deriving DecidableEq, Repr

def Outcome.log (outcome : Outcome) : Log :=
  outcome.reports.flatten

/-- Records candidates until one is known. -/
def run (config : Config) (now : Instant) (known : List String) (channel : Channel) :
    List Candidate → Outcome
  | [] => ⟨channel, 0, []⟩
  | candidate :: rest =>
    let key := linkKey candidate.link
    if key ∈ known then
      ⟨channel, 0, [[⟨.debug, s!"Reached already recorded issue {candidate.link}, stopping"⟩]]⟩
    else
      let outcome := run config now (key :: known) (record config now channel candidate) rest
      { outcome with
        added := outcome.added + 1
        reports := ((stamp config.feed now).2 ++
          [⟨.info, s!"New issue: {Text.trim candidate.link}"⟩]) :: outcome.reports }

end Merge

/-- Merges a page's candidates, newest first, into a channel. -/
def merge (config : Config) (now : Instant) (channel : Channel) (candidates : List Candidate) :
    Merge.Outcome :=
  Merge.run config now channel.linkKeys channel candidates

end IssueFeed
