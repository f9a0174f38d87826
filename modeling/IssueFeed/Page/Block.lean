import IssueFeed.Html.Tree
import IssueFeed.Text.Alphabet
import IssueFeed.Text.Blank

/-!
The parts of a link to an issue. What a part is for is told by its class: one for an image holds the
issue's thumbnail, one for a description a text.
-/
namespace IssueFeed

open Text (hasInfix)

inductive Block where
  | image (source : Option String)
  | description (text : String)
  | other
  deriving DecidableEq, Repr

namespace Block

def imageSource? (element : Html.Element) : Option String :=
  if element.name = "img" then element.attribute? "src" else none

def classOf (element : Html.Element) : List Char :=
  ((element.attribute? "class").getD "").toList

def isForImage (element : Html.Element) : Bool :=
  hasInfix "image".toList (classOf element)

def isForDescription (element : Html.Element) : Bool :=
  !isForImage element && hasInfix "description".toList (classOf element)

/-- The source of the first image within an element that has one. -/
def firstSource? (element : Html.Element) : Option String :=
  element.descendants.findSome? imageSource?

/-- What a part of a link is. A class that speaks of both counts as an image's. -/
def ofElement (element : Html.Element) : Block :=
  if isForImage element then .image (firstSource? element)
  else if isForDescription element then .description (Text.plain element.text)
  else .other

end Block
end IssueFeed
