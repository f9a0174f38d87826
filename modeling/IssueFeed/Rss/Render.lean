import IssueFeed.Feed.Channel
import IssueFeed.Xml.Branch

/-!
The channel written as a document of RSS 2.0.
-/
namespace IssueFeed

open Xml (Branch)

def leafOf (name text : String) : Branch :=
  .leaf name.toList text.toList

def Image.toXml (image : Image) : Branch :=
  .branch "image".toList []
    [leafOf "url" image.url, leafOf "title" image.title, leafOf "link" image.link]

def Item.toXml (item : Item) : Branch :=
  .branch "item".toList []
    [leafOf "link" item.link, leafOf "title" item.title, leafOf "description" item.description,
      leafOf "pubDate" item.pubDate]

def Channel.toXml (channel : Channel) : Branch :=
  .branch "channel".toList []
    ([leafOf "title" channel.title, leafOf "link" channel.link,
        leafOf "description" channel.description, leafOf "copyright" channel.copyright,
        leafOf "language" channel.language] ++
      (channel.lastBuildDate.map (leafOf "lastBuildDate")).toList ++
      (channel.image.map Image.toXml).toList ++ channel.items.map Item.toXml)

def Channel.render (channel : Channel) : String :=
  String.ofList
    (Branch.branch "rss".toList " version=\"2.0\"".toList [channel.toXml]).document

def Channel.serialize (channel : Channel) : ByteArray :=
  channel.render.toUTF8

end IssueFeed
