import IssueFeed.Config.Basic
import IssueFeed.Date.Pattern
import IssueFeed.Text.Blank
import IssueFeed.Text.Quoted
import IssueFeed.Url.Basic

/-!
What a configuration must fulfil before it is used. The first fault found, in the order of the
fields, is the one reported.
-/
namespace IssueFeed

inductive ConfigFault where
  | emptyUserAgent
  | zeroTimeout
  | emptyTopicMarker
  | emptyExtension
  | badUrl (field : String) (why : Url.Fault)
  | notWeb (field : String)
  | emptyPath
  | emptyLanguage
  | badDateFormat (format : String)
  deriving DecidableEq, Repr

def ConfigFault.message : ConfigFault → String
  | .emptyUserAgent => "crawler.user_agent is empty"
  | .zeroTimeout => "crawler.timeout_secs must be > 0"
  | .emptyTopicMarker => "source.topic_marker is empty"
  | .emptyExtension => "source.document_extension is empty"
  | .badUrl field why => s!"{field} is not a valid URL: {why.message}"
  | .notWeb field => s!"{field} must use http or https"
  | .emptyPath => "feed.output_path is empty"
  | .emptyLanguage => "feed.language is empty"
  | .badDateFormat format =>
    s!"feed.date_format {Text.quoted format} is not a valid strftime pattern"

def isBlankText (s : String) : Bool :=
  s.toList.all Text.isBlank

def webFault? (field text : String) : Option ConfigFault :=
  match Url.read text with
  | .error why => some (.badUrl field why)
  | .ok url => if url.isWeb then none else some (.notWeb field)

def SourceConfig.fault? (source : SourceConfig) : Option ConfigFault :=
  if source.topicMarker.isEmpty then some .emptyTopicMarker
  else if source.documentExtension.isEmpty then some .emptyExtension
  else (webFault? "source.page_url" source.pageUrl).or (webFault? "source.origin" source.origin)

def CrawlerConfig.fault? (crawler : CrawlerConfig) : Option ConfigFault :=
  if isBlankText crawler.userAgent then some .emptyUserAgent
  else if crawler.timeoutSeconds = 0 then some .zeroTimeout
  else none

def FeedConfig.fault? (feed : FeedConfig) : Option ConfigFault :=
  if feed.outputPath.isEmpty then some .emptyPath
  else if isBlankText feed.language then some .emptyLanguage
  else if !Date.isPattern feed.dateFormat then some (.badDateFormat feed.dateFormat)
  else none

def Config.fault? (config : Config) : Option ConfigFault :=
  (config.crawler.fault?.or config.source.fault?).or config.feed.fault?

end IssueFeed
