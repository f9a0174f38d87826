/-!
A link to an issue as found on the page, with what the page says about the issue.
-/
namespace IssueFeed

structure Candidate where
  link : String
  description : Option String := none
  imageUrl : Option String := none
  deriving DecidableEq, Repr

end IssueFeed
