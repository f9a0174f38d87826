import IssueFeed.Feed.Merge
import IssueFeed.Rss.Read

/-!
The feed to start from: the stored one, or a fresh one where nothing usable is stored.
-/
namespace IssueFeed

def FeedFault.message : FeedFault → String
  | .encoding what => s!"Validation error: feed is not valid UTF-8: {what.message}"
  | .document what => s!"XML parse error: {what.message}"

def isBlankDocument (bytes : ByteArray) : Bool :=
  bytes.data.all fun b => Text.isAsciiBlank (Char.ofNat b.toNat)

/-- The channel that the stored bytes hold. Without bytes, or with blank ones, a fresh one begins;
with unreadable ones too, with a warning. -/
def Channel.load (config : Config) (now : Instant) (stored : Option ByteArray) : Channel × Log :=
  let fresh := Channel.fresh config.feed config.source.pageUrl now.year
  match stored with
  | none => (fresh, [])
  | some bytes =>
    if isBlankDocument bytes then (fresh, [])
    else
      match Channel.parse bytes with
      | .ok channel => (channel, [⟨.debug, s!"Loaded feed with {channel.items.length} items"⟩])
      | .error what =>
        let cause := what.message
        (fresh, [⟨.warn, s!"Previous feed could not be parsed ({cause}); starting a new one"⟩])

end IssueFeed
