import IssueFeed.Config.Basic
import IssueFeed.Feed.Candidate
import IssueFeed.Feed.Link
import IssueFeed.Log
import IssueFeed.Page.Block

/-!
The issues that a page links to. A link counts if it ends like a document and names the topic; its
parts tell what the page says about the issue.
-/
namespace IssueFeed

open Text (hasInfix dropStart?)

def SourceConfig.qualifies (source : SourceConfig) (href : String) : Bool :=
  (dropStart? source.documentExtension.toList.reverse href.toList.reverse).isSome &&
    hasInfix source.topicMarker.toList href.toList

def SourceConfig.target? (source : SourceConfig) (element : Html.Element) : Option String :=
  if element.name = "a" then
    ((element.attribute? "href").map Text.trim).filter source.qualifies
  else none

/-- An issue found on a page, and what was reported while its link was read. -/
structure Finding where
  candidate : Candidate
  log : Log := []
  deriving DecidableEq, Repr

namespace Finding

/-- What is known after one more part of the link. Of two parts of a kind the later counts. -/
def withBlock (source : SourceConfig) (finding : Finding) (block : Block) : Finding :=
  match block with
  | .image (some address) =>
    { finding with
      candidate := { finding.candidate with imageUrl := some (resolve source.origin address) } }
  | .image none =>
    { finding with
      log := finding.log ++
        [⟨.debug, s!"Image block without <img src> in {finding.candidate.link}"⟩] }
  | .description text =>
    { finding with candidate := { finding.candidate with description := some text } }
  | .other => finding

def ofLink (source : SourceConfig) (target : String) (element : Html.Element) : Finding :=
  (element.childElements.map Block.ofElement).foldl (withBlock source)
    { candidate := { link := resolve source.origin target } }

def ofElement? (source : SourceConfig) (element : Html.Element) : Option Finding :=
  (source.target? element).map fun target => ofLink source target element

end Finding

/-- The issues that a page links to, in the page's order. -/
def findings (source : SourceConfig) (page : Html.Document) : List Finding :=
  page.elements.filterMap (Finding.ofElement? source)

end IssueFeed
