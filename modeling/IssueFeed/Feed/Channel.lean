import IssueFeed.Text.Blank

/-!
The feed as data: a channel with its envelope, its thumbnail and its items in the order in which
they were found, and the key by which a link is known.
-/
namespace IssueFeed

structure Image where
  url : String := ""
  title : String := ""
  link : String := ""
  deriving DecidableEq, Repr

structure Item where
  link : String := ""
  title : String := ""
  description : String := ""
  pubDate : String := ""
  deriving DecidableEq, Repr

structure Channel where
  title : String := ""
  link : String := ""
  description : String := ""
  copyright : String := ""
  language : String := ""
  lastBuildDate : Option String := none
  image : Option Image := none
  /-- The oldest first. -/
  items : List Item := []
  deriving DecidableEq, Repr

/-- A link without its blanks, by which it is told whether two links are the same. -/
def linkKey (link : String) : String :=
  String.ofList (link.toList.filter (!Text.isBlank ·))

namespace Channel

/-- The channel with one more item, the newest. -/
def append (channel : Channel) (item : Item) : Channel :=
  { channel with items := channel.items ++ [item] }

def linkKeys (channel : Channel) : List String :=
  channel.items.map fun item => linkKey item.link

/-- The keys of the recorded links, each once. -/
def knownLinks (channel : Channel) : List String :=
  channel.linkKeys.eraseDups

def newestFirst (channel : Channel) : List Item :=
  channel.items.reverse

end Channel
end IssueFeed
