/-!
The configuration: how the page is fetched, which links on it count, and what the feed is called and
where it is kept. Every field has a default.
-/
namespace IssueFeed

structure CrawlerConfig where
  userAgent : String := "Mozilla/5.0 (compatible; GS-Crawler/1.0; +https://goslar.app)"
  timeoutSeconds : Nat := 30
  deriving DecidableEq, Repr

structure SourceConfig where
  pageUrl : String := "https://www.goslar.de/leben-in-goslar/senioren/seniorenzeitung"
  /-- Put before links that name no site. -/
  origin : String := "https://goslar.de"
  /-- Stands somewhere in every link to an issue. -/
  topicMarker : String := "seniorenzeitung"
  /-- Ends every link to an issue. -/
  documentExtension : String := ".pdf"
  deriving DecidableEq, Repr

structure FeedConfig where
  outputPath : String := "output/001_senioren_feed.xml"
  title : String := "Seniorenzeitung der Stadt Goslar"
  description : String := "RSS Feed der Seniorenzeitung der Stadt Goslar"
  copyrightHolder : String := "Stadt Goslar"
  language : String := "de-DE"
  itemTitle : String := "Eine neue Ausgabe der Seniorenzeitung ist erschienen!"
  imageTitle : String := "Neuste Ausgabe"
  dateFormat : String := "%Y-%m-%d %H:%M"
  deriving DecidableEq, Repr

structure Config where
  crawler : CrawlerConfig := {}
  source : SourceConfig := {}
  feed : FeedConfig := {}
  deriving DecidableEq, Repr

end IssueFeed
