import IssueFeed.Html.Draft
import IssueFeed.Html.Reading

/-!
What is known while a page's tree is built: the elements that are open, the formatting that goes on
across them, and which tokens are expected.
-/
namespace IssueFeed.Html

/-- Which part of a page is being read, and so what a token means. -/
inductive Mode where
  | initial
  | beforeHtml
  | beforeHead
  | inHead
  | afterHead
  | inBody
  | content
  | inTable
  | inTableText
  | inCaption
  | inColumnGroup
  | inTableBody
  | inRow
  | inCell
  | inSelect
  | inSelectInTable
  | inTemplate
  | afterBody
  | inFrameset
  | afterFrameset
  | afterAfterBody
  | afterAfterFrameset
  deriving DecidableEq, Repr

structure OpenElement where
  number : Nat
  vocabulary : Vocabulary
  name : String
  deriving DecidableEq, Repr

namespace OpenElement

def isHtml (element : OpenElement) (name : String) : Bool :=
  element.vocabulary == .html && element.name == name

def isOneOf (element : OpenElement) (names : List String) : Bool :=
  element.vocabulary == .html && names.contains element.name

def holdsFormulaText (element : OpenElement) : Bool :=
  element.vocabulary == .mathml && ["mi", "mo", "mn", "ms", "mtext"].contains element.name

def holdsPage (element : OpenElement) : Bool :=
  element.vocabulary == .svg && ["foreignobject", "desc", "title"].contains element.name

end OpenElement

/-- Formatting that goes on until its closing tag, or the edge of a part that formatting does not
cross. -/
inductive Formatting where
  | edge
  | element (number : Nat) (tag : Tag)
  deriving DecidableEq, Repr

def Formatting.isElement : Formatting → Bool
  | .edge => false
  | .element .. => true

structure Builder where
  draft : Draft := .empty
  /-- The open elements, the innermost first. -/
  opened : List OpenElement := []
  /-- The formatting, the latest first. -/
  formatting : List Formatting := []
  mode : Mode := .initial
  /-- The mode to go back to after an element's content or a table's text. -/
  returnMode : Mode := .inBody
  templateModes : List Mode := []
  reading : Reading := .markup
  head : Option OpenElement := none
  form : Option Nat := none
  /-- The text is not a page but a piece of one. -/
  fragment : Bool := false
  framesetAllowed : Bool := true
  /-- The page is of the old kind. -/
  old : Bool := false
  /-- What does not belong into a table is put before it. -/
  fostering : Bool := false
  tableText : List Token := []
  /-- A line feed that comes next does not count. -/
  skipsLineFeed : Bool := false

/-- What comes of a token: it has been dealt with, or it is to be looked at again. -/
inductive Outcome where
  | done (builder : Builder)
  | again (builder : Builder)

namespace Builder

/-! Scopes: how far a search through the open elements goes. -/

def scopeNames : List String :=
  ["applet", "caption", "html", "table", "td", "th", "marquee", "object", "template"]

def endsScope (element : OpenElement) : Bool :=
  element.isOneOf scopeNames || element.holdsFormulaText || element.holdsPage

def endsListScope (element : OpenElement) : Bool :=
  endsScope element || element.isOneOf ["ol", "ul"]

def endsButtonScope (element : OpenElement) : Bool :=
  endsScope element || element.isHtml "button"

def endsTableScope (element : OpenElement) : Bool :=
  element.isOneOf ["html", "table", "template"]

def endsSelectScope (element : OpenElement) : Bool :=
  !element.isOneOf ["optgroup", "option"]

/-- Whether an element that is looked for is open, the innermost first, before one that ends the
scope. -/
def isWithin (ends wanted : OpenElement → Bool) : List OpenElement → Bool
  | [] => false
  | element :: outer => wanted element || (!ends element && isWithin ends wanted outer)

def inScope (builder : Builder) (ends : OpenElement → Bool) (name : String) : Bool :=
  isWithin ends (·.isHtml name) builder.opened

def inTemplate (builder : Builder) : Bool :=
  builder.opened.any (·.isHtml "template")

def current? (builder : Builder) : Option OpenElement :=
  builder.opened.head?

def currentIs (builder : Builder) (name : String) : Bool :=
  builder.current?.any (·.isHtml name)

def currentIsOneOf (builder : Builder) (names : List String) : Bool :=
  builder.current?.any (·.isOneOf names)

/-! Closing. -/

def pop (builder : Builder) : Builder :=
  { builder with opened := builder.opened.tail }

/-- Closes elements up to and with the first of a kind. -/
def popThrough (wanted : OpenElement → Bool) (builder : Builder) : Builder :=
  { builder with opened := (builder.opened.dropWhile (!wanted ·)).tail }

def popThroughName (name : String) (builder : Builder) : Builder :=
  builder.popThrough (·.isHtml name)

/-- Closes the elements inside the first of a kind. -/
def popTo (wanted : OpenElement → Bool) (builder : Builder) : Builder :=
  { builder with opened := builder.opened.dropWhile (!wanted ·) }

/-- Elements whose closing tag may be missing. -/
def impliedNames : List String :=
  ["dd", "dt", "li", "option", "optgroup", "p", "rb", "rp", "rt", "rtc"]

def allImpliedNames : List String :=
  impliedNames ++ ["caption", "colgroup", "tbody", "td", "tfoot", "th", "thead", "tr"]

def closeImplied (names : List String) (builder : Builder) : Builder :=
  { builder with opened := builder.opened.dropWhile (·.isOneOf names) }

def closeImpliedExcept (name : String) (builder : Builder) : Builder :=
  builder.closeImplied (impliedNames.filter (· ≠ name))

def closeParagraph (builder : Builder) : Builder :=
  (builder.closeImpliedExcept "p").popThroughName "p"

/-- Closes the paragraph that is open, if there is one within the next button. -/
def closeOpenParagraph (builder : Builder) : Builder :=
  if builder.inScope endsButtonScope "p" then builder.closeParagraph else builder

def removeOpened (number : Nat) (builder : Builder) : Builder :=
  { builder with opened := builder.opened.filter (·.number ≠ number) }

/-! Adding to the tree. -/

def tableParts : List String := ["table", "tbody", "tfoot", "thead", "tr"]

inductive Place where
  | within (number : Nat)
  | before (number : Nat)

/-- The place for what does not belong into a table: before it, if it is in a place itself. -/
def fosterPlace (draft : Draft) : List OpenElement → Place
  | [] => .within 0
  | [root] => .within root.number
  | element :: outer :: rest =>
    if element.isHtml "template" then .within element.number
    else if element.isHtml "table" then
      if (draft.parent? element.number).isSome then .before element.number
      else .within outer.number
    else fosterPlace draft (outer :: rest)

def placeIn (builder : Builder) (target : OpenElement) : Place :=
  if builder.fostering && target.isOneOf tableParts then fosterPlace builder.draft builder.opened
  else .within target.number

/-- Puts an element where something for the target goes. -/
def insert (builder : Builder) (target : OpenElement) (number : Nat) : Builder :=
  match builder.placeIn target with
  | .within parent => { builder with draft := builder.draft.append parent number }
  | .before sibling => { builder with draft := builder.draft.insertBefore sibling number }

def insertText (builder : Builder) (characters : List Char) : Builder :=
  match builder.current? with
  | none => builder
  | some target =>
    match builder.placeIn target with
    | .within parent =>
      { builder with draft := builder.draft.appendText parent (String.ofList characters) }
    | .before sibling =>
      { builder with draft := builder.draft.insertTextBefore sibling (String.ofList characters) }

/-- Makes an element for a tag, in its place but not open. -/
def insertElement (builder : Builder) (vocabulary : Vocabulary) (tag : Tag) :
    Builder × OpenElement :=
  let number := builder.draft.next
  let builder := { builder with draft := builder.draft.make tag.name tag.attributes }
  let element : OpenElement := ⟨number, vocabulary, tag.name⟩
  match builder.current? with
  | some target => (builder.insert target number, element)
  | none => ({ builder with draft := builder.draft.append 0 number }, element)

def openElement (builder : Builder) (vocabulary : Vocabulary) (tag : Tag) : Builder × OpenElement :=
  let (builder, element) := builder.insertElement vocabulary tag
  ({ builder with opened := element :: builder.opened }, element)

def openTag (builder : Builder) (tag : Tag) : Builder :=
  (builder.openElement .html tag).1

def openName (builder : Builder) (name : String) : Builder :=
  builder.openTag ⟨name, [], false⟩

def addTag (builder : Builder) (tag : Tag) : Builder :=
  (builder.insertElement .html tag).1

/-- Opens an element whose content is cut in a way of its own. -/
def openContent (builder : Builder) (tag : Tag) (reading : Reading) : Builder :=
  let builder := builder.openTag tag
  { builder with returnMode := builder.mode, mode := .content, reading := reading }

/-! The mode in which the open elements leave a page. -/

/-- The mode within an open list of choices, given what it stands in. -/
def selectMode : List OpenElement → Mode
  | [] => .inSelect
  | element :: outer =>
    if element.isHtml "template" then .inSelect
    else if element.isHtml "table" then .inSelectInTable
    else selectMode outer

/-- The mode that an open element sets, given what it stands in. -/
def modeOf? (builder : Builder) (element : OpenElement) (outer : List OpenElement) : Option Mode :=
  if element.vocabulary != .html then none
  else
    match element.name with
    | "select" => some (selectMode outer)
    | "td" => some .inCell
    | "th" => some .inCell
    | "tr" => some .inRow
    | "tbody" => some .inTableBody
    | "thead" => some .inTableBody
    | "tfoot" => some .inTableBody
    | "caption" => some .inCaption
    | "colgroup" => some .inColumnGroup
    | "table" => some .inTable
    | "template" => builder.templateModes.head?
    | "head" => some .inHead
    | "body" => some .inBody
    | "frameset" => some .inFrameset
    | _ => none

/-- The mode that the open elements set, the innermost first; the outermost stands for the page. -/
def modeFor (builder : Builder) : List OpenElement → Mode
  | [] => .inBody
  | [_] =>
    if builder.fragment then .inBody
    else if builder.head.isSome then .afterHead
    else .beforeHead
  | element :: outer =>
    match builder.modeOf? element outer with
    | some mode => mode
    | none => modeFor builder outer

def resetMode (builder : Builder) : Builder :=
  { builder with mode := builder.modeFor builder.opened }

end Builder
end IssueFeed.Html
