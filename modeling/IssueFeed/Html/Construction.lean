import IssueFeed.Html.Table

/-!
Building the tree of a page from its text. Each token is dealt with by the rules for the mode that
the page is in, or, within a picture or a formula, by the rules for those.
-/
namespace IssueFeed.Html

namespace Builder

def inContent (builder : Builder) (token : Token) : Outcome :=
  match token with
  | .blank characters => .done (builder.insertText characters)
  | .text characters => .done (builder.insertText characters)
  | .finish => .again { builder.pop with mode := builder.returnMode }
  | .closing _ => .done { builder.pop with mode := builder.returnMode, reading := .markup }
  | _ => .done builder

def beforeHtml (builder : Builder) (token : Token) : Outcome :=
  let start (tag : Tag) : Builder := { builder.openTag tag with mode := .beforeHead }
  let other : Outcome := .again (start ⟨"html", [], false⟩)
  match token with
  | .blank _ => .done builder
  | .comment => .done builder
  | .opening tag => if tag.name = "html" then .done (start tag) else other
  | .closing name =>
    if ["head", "body", "html", "br"].contains name then other else .done builder
  | _ => other

def beforeHead (builder : Builder) (token : Token) : Outcome :=
  let start (tag : Tag) : Builder :=
    let (builder, element) := builder.openElement .html tag
    { builder with head := some element, mode := .inHead }
  let other : Outcome := .again (start ⟨"head", [], false⟩)
  match token with
  | .blank _ => .done builder
  | .comment => .done builder
  | .opening tag =>
    if tag.name = "head" then .done (start tag)
    else if tag.name = "html" then .done builder
    else other
  | .closing name =>
    if ["head", "body", "html", "br"].contains name then other else .done builder
  | _ => other

/-- Deals with an opening tag of the head that comes too late. -/
def openLateInHead (builder : Builder) (tag : Tag) : Builder :=
  match builder.head with
  | some head =>
    ({ builder with opened := head :: builder.opened }.openInHead tag).removeOpened head.number
  | none => builder.openInHead tag

def afterHead (builder : Builder) (token : Token) : Outcome :=
  let other : Outcome := .again { builder.openName "body" with mode := .inBody }
  match token with
  | .blank characters => .done (builder.insertText characters)
  | .comment => .done builder
  | .opening tag =>
    if headNames.contains tag.name then .done (builder.openLateInHead tag)
    else
      match tag.name with
      | "html" => .done builder
      | "head" => .done builder
      | "body" => .done { (builder.openTag tag).withoutFrameset with mode := .inBody }
      | "frameset" => .done { builder.openTag tag with mode := .inFrameset }
      | _ => other
  | .closing name =>
    if name = "template" then .done builder.closeTemplate
    else if ["body", "html", "br"].contains name then other
    else .done builder
  | _ => other

def templateMode (name : String) : Mode :=
  match name with
  | "caption" => .inTable
  | "colgroup" => .inTable
  | "tbody" => .inTable
  | "tfoot" => .inTable
  | "thead" => .inTable
  | "col" => .inColumnGroup
  | "tr" => .inTableBody
  | "td" => .inRow
  | "th" => .inRow
  | _ => .inBody

def inTemplateMode (builder : Builder) (token : Token) : Outcome :=
  match token with
  | .opening tag =>
    if headNames.contains tag.name then .done (builder.openInHead tag)
    else
      let mode := templateMode tag.name
      .again { builder with mode := mode, templateModes := mode :: builder.templateModes.tail }
  | .closing name => .done (if name = "template" then builder.closeTemplate else builder)
  | .finish => builder.finishTemplate
  | _ => builder.inBody token

def afterBody (builder : Builder) (token : Token) : Outcome :=
  let other : Outcome := .again { builder with mode := .inBody }
  match token with
  | .blank _ => builder.inBody token
  | .comment => .done builder
  | .finish => .done builder
  | .opening tag => if tag.name = "html" then .done builder else other
  | .closing name =>
    if name = "html" then
      .done (if builder.fragment then builder else { builder with mode := .afterAfterBody })
    else other
  | _ => other

def afterAfterBody (builder : Builder) (token : Token) : Outcome :=
  let other : Outcome := .again { builder with mode := .inBody }
  match token with
  | .blank _ => builder.inBody token
  | .comment => .done builder
  | .finish => .done builder
  | .opening tag => if tag.name = "html" then .done builder else other
  | _ => other

def inFrameset (builder : Builder) (token : Token) : Outcome :=
  .done <|
    match token with
    | .blank characters => builder.insertText characters
    | .opening tag =>
      match tag.name with
      | "frameset" => builder.openTag tag
      | "frame" => builder.addTag tag
      | "noframes" => builder.openInHead tag
      | _ => builder
    | .closing name =>
      if name = "frameset" && 1 < builder.opened.length then
        let builder := builder.pop
        if builder.fragment || builder.currentIs "frameset" then builder
        else { builder with mode := .afterFrameset }
      else builder
    | _ => builder

def afterFrameset (builder : Builder) (token : Token) : Outcome :=
  .done <|
    match token with
    | .blank characters => builder.insertText characters
    | .opening tag => if tag.name = "noframes" then builder.openInHead tag else builder
    | .closing name =>
      if name = "html" then { builder with mode := .afterAfterFrameset } else builder
    | _ => builder

def afterAfterFrameset (builder : Builder) (token : Token) : Outcome :=
  match token with
  | .blank _ => builder.inBody token
  | .opening tag =>
    .done (if tag.name = "noframes" then builder.openInHead tag else builder)
  | _ => .done builder

def initial (builder : Builder) (token : Token) : Outcome :=
  match token with
  | .blank _ => .done builder
  | .comment => .done builder
  | _ => .again { builder with old := true, mode := .beforeHtml }

def step (builder : Builder) (token : Token) : Outcome :=
  match builder.mode with
  | .initial => builder.initial token
  | .beforeHtml => builder.beforeHtml token
  | .beforeHead => builder.beforeHead token
  | .inHead => builder.inHead token
  | .afterHead => builder.afterHead token
  | .inBody => builder.inBody token
  | .content => builder.inContent token
  | .inTable => builder.inTable token
  | .inTableText => builder.inTableText token
  | .inCaption => builder.inCaption token
  | .inColumnGroup => builder.inColumnGroup token
  | .inTableBody => builder.inTableBody token
  | .inRow => builder.inRow token
  | .inCell => builder.inCell token
  | .inSelect => builder.inSelect token
  | .inSelectInTable => builder.inSelectInTable token
  | .inTemplate => builder.inTemplateMode token
  | .afterBody => builder.afterBody token
  | .inFrameset => builder.inFrameset token
  | .afterFrameset => builder.afterFrameset token
  | .afterAfterBody => builder.afterAfterBody token
  | .afterAfterFrameset => builder.afterAfterFrameset token

/-! Pictures and formulas. -/

def isForeign (builder : Builder) : Bool :=
  builder.current?.any (·.vocabulary != .html)

def Token.isCharacters : Token → Bool
  | .blank _ => true
  | .text _ => true
  | .nul => true
  | _ => false

/-- Whether a token within a picture or a formula is a part of it, and not of the page that some of
their elements hold. -/
def belongsTo (element : OpenElement) (token : Token) : Bool :=
  if element.vocabulary = .html then false
  else
    match token with
    | .finish => false
    | .opening tag =>
      !(element.holdsPage ||
        (element.holdsFormulaText && !(["mglyph", "malignmark"].contains tag.name)) ||
        (element.vocabulary == .mathml && element.name == "annotation-xml" && tag.name == "svg"))
    | _ =>
      !(Token.isCharacters token && (element.holdsPage || element.holdsFormulaText))

def breakoutNames : List String :=
  ["b", "big", "blockquote", "body", "br", "center", "code", "dd", "div", "dl", "dt", "em", "embed",
    "h1", "h2", "h3", "h4", "h5", "h6", "head", "hr", "i", "img", "li", "listing", "menu", "meta",
    "nobr", "ol", "p", "pre", "ruby", "s", "small", "span", "strong", "strike", "sub", "sup",
    "table", "tt", "u", "ul", "var"]

def breaksOut (tag : Tag) : Bool :=
  breakoutNames.contains tag.name ||
    (tag.name == "font" &&
      ["color", "face", "size"].any fun name => (tag.attribute? name).isSome)

/-- Closes pictures and formulas up to an element that holds a page, and goes on there. -/
def breakOut (builder : Builder) (token : Token) : Outcome :=
  (builder.popTo fun element =>
    element.vocabulary == .html || element.holdsFormulaText || element.holdsPage).step token

/-- Deals with a closing tag in a picture or a formula, given the elements that it may close; it is
not looked for beyond the page around it. -/
def closeForeign (builder : Builder) (name : String) : Bool → List OpenElement → Outcome
  | _, [] => .done builder
  | _, [_] => .done builder
  | innermost, element :: outer =>
    if !innermost && element.vocabulary == .html then builder.step (.closing name)
    else if element.name = name then .done { builder with opened := outer }
    else closeForeign builder name false outer

def stepForeign (builder : Builder) (element : OpenElement) (token : Token) : Outcome :=
  match token with
  | .nul => .done (builder.insertText [unknownCharacter])
  | .blank characters => .done (builder.insertText characters)
  | .text characters => .done (builder.withoutFrameset.insertText characters)
  | .opening tag =>
    if breaksOut tag then builder.breakOut token
    else .done (builder.openForeign element.vocabulary tag)
  | .closing name =>
    if ["br", "p"].contains name then builder.breakOut token
    else builder.closeForeign name true builder.opened
  | _ => .done builder

/-- Deals with a token until no rule asks to look at it again. Each time but a few an element is
closed, so the number of open elements bounds how often that is. -/
def settle : Nat → Builder → Token → Builder
  | 0, builder, _ => builder
  | rounds + 1, builder, token =>
    let outcome :=
      match builder.current? with
      | some element =>
        if belongsTo element token then builder.stepForeign element token else builder.step token
      | none => builder.step token
    match outcome with
    | .done builder => builder
    | .again builder => settle rounds builder token

def take (builder : Builder) (token : Token) : Builder :=
  let skips := builder.skipsLineFeed
  let builder := { builder with skipsLineFeed := false }
  let rounds := 8 * builder.opened.length + 32
  match token with
  | .documentType old =>
    if builder.mode = .initial then { builder with old := old, mode := .beforeHtml } else builder
  | .blank ('\n' :: rest) =>
    if skips then if rest.isEmpty then builder else settle rounds builder (.blank rest)
    else settle rounds builder token
  | .text ('\n' :: rest) =>
    if skips then if rest.isEmpty then builder else settle rounds builder (.text rest)
    else settle rounds builder token
  | _ => settle rounds builder token

def run (builder : Builder) (text : List Char) : Builder :=
  if _filled : text = [] then builder.take .finish
  else
    let next := nextTokens builder.reading builder.isForeign text
    run (next.1.foldl take builder) next.2
termination_by text.length
decreasing_by exact nextTokens_length _ _ _filled

/-- A builder for a piece of a page, which stands in a body. -/
def forFragment : Builder :=
  { ({} : Builder).openName "html" with mode := .inBody, fragment := true }

end Builder

/-- The text of a page without a mark of its byte order. -/
def withoutMark : List Char → List Char
  | [] => []
  | c :: rest => if c.toNat = 0xFEFF then rest else c :: rest

def Document.ofText (text : String) : Document :=
  (({} : Builder).run (withLineFeeds (withoutMark text.toList))).draft.document

/-- The elements at the top of the piece of a page that a text writes. -/
def fragmentOf (text : String) : List Element :=
  let draft := (Builder.forFragment.run (withLineFeeds (withoutMark text.toList))).draft
  (draft.nodesOf 0).flatMap fun
    | .text _ => []
    | .element _ _ children => children.filterMap Node.element?

end IssueFeed.Html
