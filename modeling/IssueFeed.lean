import IssueFeed.Main
import IssueFeed.Proofs.Feed.Reachable
import IssueFeed.Proofs.Run.History
import IssueFeed.Proofs.Run.Repeating
import IssueFeed.Proofs.Run.Listing
import IssueFeed.Proofs.Store.Rooted
import IssueFeed.Proofs.Store.Content
import IssueFeed.Proofs.Store.Moments
import IssueFeed.Proofs.Store.Whole
import IssueFeed.Proofs.Run.Failing
import IssueFeed.Proofs.Feed.Produced
import IssueFeed.Proofs.Rss.Arranged
import IssueFeed.Proofs.Feed.Layouts
import IssueFeed.Proofs.Page.Anchors
import IssueFeed.Proofs.Run.Provenance
import IssueFeed.Proofs.Run.Ordering
import IssueFeed.Proofs.Date.Stamping
import IssueFeed.Proofs.Run.Reporting
import IssueFeed.Proofs.CommandLine.Effects
import IssueFeed.Proofs.Run.Linking
import IssueFeed.Proofs.Feed.Outcome
import IssueFeed.Proofs.Rss.Ending
import IssueFeed.Proofs.Feed.Truncated
import IssueFeed.Proofs.Store.Above
import IssueFeed.Proofs.Store.Cell
import IssueFeed.Proofs.Page.Descriptions
import IssueFeed.Proofs.Config.Overlay
import IssueFeed.Proofs.CommandLine.Ready
import IssueFeed.Proofs.Feed.Identity
