import IssueFeed.Text.Blank

/-!
Links of a page made absolute by putting the site's origin before them.
-/
namespace IssueFeed

open Text (trimBoth isBlank dropStart? dropEndWhile)

def isAbsoluteLink (link : List Char) : Bool :=
  (dropStart? "http://".toList link).isSome || (dropStart? "https://".toList link).isSome

/-- A trimmed link as seen from an origin. -/
def resolveTrimmed (origin link : List Char) : List Char :=
  if isAbsoluteLink link then link
  else
    match link with
    | '/' :: _ => dropEndWhile (· == '/') origin ++ link
    | _ => dropEndWhile (· == '/') origin ++ '/' :: link

/-- The link that an anchor's target stands for on a site with this origin. -/
def resolve (origin href : String) : String :=
  String.ofList (resolveTrimmed origin.toList (trimBoth isBlank href.toList))

end IssueFeed
