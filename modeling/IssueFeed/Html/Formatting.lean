import IssueFeed.Html.Builder

/-!
Formatting across elements. A formatting element that is cut off by the end of another goes on
behind it, and one that is closed within a block ends in that block and outside of it. Both make
further elements with the attributes of the first.
-/
namespace IssueFeed.Html.Builder

def specialNames : List String :=
  ["address", "applet", "area", "article", "aside", "base", "basefont", "bgsound", "blockquote",
    "body", "br", "button", "caption", "center", "col", "colgroup", "dd", "details", "dir", "div",
    "dl", "dt", "embed", "fieldset", "figcaption", "figure", "footer", "form", "frame", "frameset",
    "h1", "h2", "h3", "h4", "h5", "h6", "head", "header", "hgroup", "hr", "html", "iframe", "img",
    "input", "isindex", "li", "link", "listing", "main", "marquee", "menu", "meta", "nav",
    "noembed", "noframes", "noscript", "object", "ol", "p", "param", "plaintext", "pre", "script",
    "section", "select", "source", "style", "summary", "table", "tbody", "td", "template",
    "textarea", "tfoot", "th", "thead", "title", "tr", "track", "ul", "wbr", "xmp"]

def isSpecial (element : OpenElement) : Bool :=
  element.isOneOf specialNames

def isOpen (builder : Builder) (number : Nat) : Bool :=
  builder.opened.any (·.number = number)

/-- The formatting up to the next edge, the latest first. -/
def currentFormatting (builder : Builder) : List (Nat × Tag) :=
  (builder.formatting.takeWhile Formatting.isElement).filterMap fun
    | .edge => none
    | .element number tag => some (number, tag)

def formattingTag? (builder : Builder) (number : Nat) : Option Tag :=
  builder.formatting.findSome? fun
    | .edge => none
    | .element other tag => if other = number then some tag else none

def removeFormatting (number : Nat) (builder : Builder) : Builder :=
  { builder with
    formatting := builder.formatting.filter fun
      | .edge => true
      | .element other _ => other ≠ number }

def addEdge (builder : Builder) : Builder :=
  { builder with formatting := .edge :: builder.formatting }

/-- Ends the formatting up to the next edge, and that with it. -/
def clearToEdge (builder : Builder) : Builder :=
  { builder with formatting := (builder.formatting.dropWhile Formatting.isElement).tail }

/-- Opens an element for each of these tags, the last tag first; the formatting with the new
elements. -/
def reopen : List (Nat × Tag) → Builder → List Formatting × Builder
  | [], builder => ([], builder)
  | (_, tag) :: earlier, builder =>
    let (formatting, builder) := reopen earlier builder
    let (builder, element) := builder.openElement .html tag
    (.element element.number tag :: formatting, builder)

/-- Opens again the formatting elements that are open no more. -/
def reconstruct (builder : Builder) : Builder :=
  let closed := builder.currentFormatting.takeWhile fun (number, _) => !builder.isOpen number
  let (reopened, builder) := reopen closed builder
  { builder with formatting := reopened ++ builder.formatting.drop closed.length }

def sameTag (a b : Tag) : Bool :=
  a.name == b.name && a.attributes.length == b.attributes.length &&
    a.attributes.all b.attributes.contains

/-- Opens a formatting element. Of equal ones three are kept. -/
def openFormatting (builder : Builder) (tag : Tag) : Builder :=
  let equal := builder.currentFormatting.filter fun (_, other) => sameTag tag other
  let builder :=
    if 3 ≤ equal.length then
      match equal.getLast? with
      | some (number, _) => builder.removeFormatting number
      | none => builder
    else builder
  let (builder, element) := builder.openElement .html tag
  { builder with formatting := .element element.number tag :: builder.formatting }

/-- Deals with a closing tag that has no rule of its own: it closes the innermost element of its
name, unless a special element is inside that. -/
def closeOrdinary (name : String) (builder : Builder) : Builder :=
  if isWithin isSpecial (·.isHtml name) builder.opened then
    { builder with opened := (builder.opened.dropWhile (!·.isHtml name)).tail }
  else builder

/-- The elements between a block and a formatting element that is closed in it, from the block
outwards, and the element that is to be put into the next. An element that is formatting is made
anew, with that element in it; three steps out and for other elements it is left out. Gives the new
elements too, in the same order, and the innermost of them. -/
def rebuild (step last : Nat) (between : List OpenElement) (builder : Builder) :
    Builder × List OpenElement × Nat :=
  match between with
  | [] => (builder, [], last)
  | element :: outer =>
    match builder.formattingTag? element.number with
    | none => rebuild (step + 1) last outer builder
    | some tag =>
      if 3 < step then rebuild (step + 1) last outer (builder.removeFormatting element.number)
      else
        let number := builder.draft.next
        let formatting := builder.formatting.map fun entry =>
          match entry with
          | .edge => .edge
          | .element other tag => if other = element.number then .element number tag else entry
        let builder := { builder with
          draft := (builder.draft.make tag.name tag.attributes).append number last
          formatting := formatting }
        let (builder, elements, last) := rebuild (step + 1) number outer builder
        (builder, ⟨number, .html, tag.name⟩ :: elements, last)

/-- The formatting with an entry put just behind that of an element. -/
def insertBehind (number : Nat) (entry : Formatting) : List Formatting → List Formatting
  | [] => []
  | .edge :: rest => .edge :: insertBehind number entry rest
  | .element other tag :: rest =>
    if other = number then entry :: .element other tag :: rest
    else .element other tag :: insertBehind number entry rest

/-- Ends a formatting element within a block: what is in the block goes into a new element of the
same tag, and the block moves out behind the ended one. -/
def splitAtBlock (builder : Builder) (number : Nat) (tag : Tag) (inner : List OpenElement)
    (block : OpenElement) (between : List OpenElement) (outer : List OpenElement) : Builder :=
  let (builder, rebuilt, last) := rebuild 1 block.number between builder
  let builder := { builder with draft := builder.draft.detach last }
  let builder :=
    match outer.head? with
    | some ancestor => builder.insert ancestor last
    | none => builder
  let fresh := builder.draft.next
  let entry : Formatting := .element fresh tag
  let mark := (rebuilt.head?.map (·.number)).getD number
  let builder := { builder with formatting := insertBehind mark entry builder.formatting }
  { builder.removeFormatting number with
    draft :=
      ((builder.draft.make tag.name tag.attributes).moveContent block.number fresh).append
        block.number fresh
    opened := inner ++ ⟨fresh, .html, tag.name⟩ :: block :: rebuilt ++ outer }

/-- Ends the latest formatting of a name, if there is any, up to so many blocks deep. -/
def endFormatting : Nat → String → Builder → Builder
  | 0, _, builder => builder
  | rounds + 1, name, builder =>
    match builder.currentFormatting.find? (·.2.name = name) with
    | none => builder.closeOrdinary name
    | some (number, tag) =>
      if !builder.isOpen number then builder.removeFormatting number
      else if !isWithin endsScope (·.number = number) builder.opened then builder
      else
        let inside := builder.opened.takeWhile (·.number ≠ number)
        let outer := (builder.opened.dropWhile (·.number ≠ number)).tail
        let between := (inside.reverse.takeWhile (!isSpecial ·)).reverse
        match inside.reverse.dropWhile (!isSpecial ·) with
        | [] => { builder.removeFormatting number with opened := outer }
        | block :: inner =>
          endFormatting rounds name
            (builder.splitAtBlock number tag inner.reverse block between outer)

def closeFormatting (name : String) (builder : Builder) : Builder :=
  match builder.current? with
  | some element =>
    if element.isHtml name && (builder.formattingTag? element.number).isNone then builder.pop
    else endFormatting 8 name builder
  | none => builder

end IssueFeed.Html.Builder
