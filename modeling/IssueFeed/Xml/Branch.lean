import IssueFeed.Text.Blank
import IssueFeed.Xml.Escape

/-!
Elements to be written: leaves, which hold a text, and branches, which hold other elements. Each
element that is not a leaf's text stands on a line of its own, two spaces deeper than the one around
it.
-/
namespace IssueFeed.Xml

open Text (isBlank trimBoth hasInfix)

inductive Branch where
  | leaf (name text : List Char)
  | branch (name attributes : List Char) (children : List Branch)

/-- A text as written within an element. Readers trim escaped text, so a text with blanks at its
ends is written verbatim, which they leave as it is; only a text that would end its own verbatim
section is escaped all the same. -/
def writtenText (text : List Char) : List Char :=
  if trimBoth isBlank text ≠ text ∧ !hasInfix [']', ']', '>'] text then
    "<![CDATA[".toList ++ text ++ "]]>".toList
  else escape text

def openingTag (name attributes : List Char) : List Char :=
  '<' :: name ++ attributes ++ ['>']

def closingTag (name : List Char) : List Char :=
  '<' :: '/' :: name ++ ['>']

/-- A line break and the blanks that lead to a depth. -/
def lineBreak (depth : Nat) : List Char :=
  '\n' :: List.replicate (2 * depth) ' '

mutual

/-- An element at a depth, after the line break that leads to it. -/
def Branch.written (depth : Nat) : Branch → List Char
  | .leaf name text => openingTag name [] ++ writtenText text ++ closingTag name
  | .branch name attributes children =>
    openingTag name attributes ++ writtenAll (depth + 1) children ++ lineBreak depth ++
      closingTag name

def writtenAll (depth : Nat) : List Branch → List Char
  | [] => []
  | child :: rest => lineBreak depth ++ child.written depth ++ writtenAll depth rest

end

def Branch.document (root : Branch) : List Char :=
  "<?xml version=\"1.0\" encoding=\"UTF-8\"?>\n".toList ++ root.written 0 ++ ['\n']

end IssueFeed.Xml
