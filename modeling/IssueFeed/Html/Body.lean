import IssueFeed.Html.Formatting

/-!
The rules for a page's head and body, and for the few elements that may stand in either.
-/
namespace IssueFeed.Html.Builder

/-- Elements of the head that a body may have too. -/
def headNames : List String :=
  ["base", "basefont", "bgsound", "link", "meta", "noframes", "script", "style", "template",
    "title"]

def openInHead (builder : Builder) (tag : Tag) : Builder :=
  match tag.name with
  | "title" => builder.openContent tag (.replaceable tag.name.toList)
  | "noframes" => builder.openContent tag (.raw tag.name.toList)
  | "style" => builder.openContent tag (.raw tag.name.toList)
  | "noscript" => builder.openContent tag (.raw tag.name.toList)
  | "script" => builder.openContent tag .script
  | "template" =>
    { (builder.openTag tag).addEdge with
      framesetAllowed := false
      mode := .inTemplate
      templateModes := .inTemplate :: builder.templateModes }
  | _ => builder.addTag tag

def leaveTemplate (builder : Builder) : Builder :=
  let builder := (builder.popThroughName "template").clearToEdge
  { builder with templateModes := builder.templateModes.tail }.resetMode

def closeTemplate (builder : Builder) : Builder :=
  if builder.inTemplate then (builder.closeImplied allImpliedNames).leaveTemplate else builder

/-- Blocks: they end a paragraph, and their closing tag ends what is open in them. -/
def blockNames : List String :=
  ["address", "article", "aside", "blockquote", "center", "details", "dialog", "dir", "div", "dl",
    "fieldset", "figcaption", "figure", "footer", "header", "hgroup", "main", "menu", "nav", "ol",
    "p", "section", "summary", "ul"]

def headingNames : List String :=
  ["h1", "h2", "h3", "h4", "h5", "h6"]

/-- Formatting elements other than links and `nobr`. -/
def styleNames : List String :=
  ["b", "big", "code", "em", "font", "i", "s", "small", "strike", "strong", "tt", "u"]

def objectNames : List String :=
  ["applet", "marquee", "object"]

def isHiddenInput (tag : Tag) : Bool :=
  (tag.attribute? "type").any fun type => type.toList.map Text.lower == "hidden".toList

/-- Closes the item that is open in a list, as far as the next special element. -/
def closeItem (names : List String) : List OpenElement → Builder → Builder
  | [], builder => builder
  | element :: outer, builder =>
    if element.isOneOf names then
      (builder.closeImpliedExcept element.name).popThroughName element.name
    else if isSpecial element && !element.isOneOf ["address", "div", "p"] then builder
    else closeItem names outer builder

def openItem (builder : Builder) (tag : Tag) : Builder :=
  let names := if tag.name = "li" then ["li"] else ["dd", "dt"]
  let closed := closeItem names builder.opened { builder with framesetAllowed := false }
  closed.closeOpenParagraph.openTag tag

def openForm (builder : Builder) (tag : Tag) : Builder :=
  if builder.form.isSome && !builder.inTemplate then builder
  else
    let (opened, element) := builder.closeOpenParagraph.openElement .html tag
    if opened.inTemplate then opened else { opened with form := some element.number }

/-- A link within a link ends that before it begins. -/
def openLink (builder : Builder) (tag : Tag) : Builder :=
  let builder :=
    match builder.currentFormatting.find? (·.2.name = "a") with
    | none => builder
    | some (number, _) =>
      ((builder.closeFormatting "a").removeFormatting number).removeOpened number
  builder.reconstruct.openFormatting tag

def openNobr (builder : Builder) (tag : Tag) : Builder :=
  let builder := builder.reconstruct
  let builder :=
    if builder.inScope endsScope "nobr" then (builder.closeFormatting "nobr").reconstruct
    else builder
  builder.openFormatting tag

def openButton (builder : Builder) (tag : Tag) : Builder :=
  let builder :=
    if builder.inScope endsScope "button" then
      (builder.closeImplied impliedNames).popThroughName "button"
    else builder
  { builder.reconstruct.openTag tag with framesetAllowed := false }

def openForeign (builder : Builder) (vocabulary : Vocabulary) (tag : Tag) : Builder :=
  if tag.selfClosing then (builder.insertElement vocabulary tag).1
  else (builder.openElement vocabulary tag).1

/-- The mode within a list of choices that is opened in some mode. -/
def selectModeIn (mode : Mode) : Mode :=
  if [Mode.inTable, .inCaption, .inTableBody, .inRow, .inCell].contains mode then .inSelectInTable
  else .inSelect

/-- A frameset takes the place of a body that is still empty. -/
def openFrameset (builder : Builder) (tag : Tag) : Builder :=
  match builder.opened.reverse with
  | root :: body :: _ =>
    if builder.framesetAllowed && body.isHtml "body" then
      let bare := { builder with draft := builder.draft.detach body.number, opened := [root] }
      { bare.openTag tag with mode := .inFrameset }
    else builder
  | _ => builder

/-- A second body changes nothing but that no frameset may follow. -/
def openBodyAgain (builder : Builder) : Builder :=
  match builder.opened.reverse with
  | _ :: body :: _ =>
    if body.isHtml "body" && !builder.inTemplate then { builder with framesetAllowed := false }
    else builder
  | _ => builder

def withoutFrameset (builder : Builder) : Builder :=
  { builder with framesetAllowed := false }

def openInBody (builder : Builder) (tag : Tag) : Builder :=
  let name := tag.name
  if headNames.contains name then builder.openInHead tag
  else if blockNames.contains name then builder.closeOpenParagraph.openTag tag
  else if styleNames.contains name then builder.reconstruct.openFormatting tag
  else if headingNames.contains name then
    let builder := builder.closeOpenParagraph
    (if builder.currentIsOneOf headingNames then builder.pop else builder).openTag tag
  else if objectNames.contains name then
    (builder.reconstruct.openTag tag).addEdge.withoutFrameset
  else if ["li", "dd", "dt"].contains name then builder.openItem tag
  else if ["pre", "listing"].contains name then
    { (builder.closeOpenParagraph.openTag tag).withoutFrameset with skipsLineFeed := true }
  else if ["area", "br", "embed", "img", "keygen", "wbr"].contains name then
    (builder.reconstruct.addTag tag).withoutFrameset
  else if ["param", "source", "track"].contains name then builder.addTag tag
  else if ["optgroup", "option"].contains name then
    (if builder.currentIs "option" then builder.pop else builder).reconstruct.openTag tag
  else if ["rb", "rtc"].contains name then
    (if builder.inScope endsScope "ruby" then builder.closeImplied impliedNames
      else builder).openTag tag
  else if ["rp", "rt"].contains name then
    (if builder.inScope endsScope "ruby" then builder.closeImpliedExcept "rtc"
      else builder).openTag tag
  else if ["html", "caption", "col", "colgroup", "frame", "head", "tbody", "td", "tfoot", "th",
      "thead", "tr"].contains name then builder
  else
    match name with
    | "a" => builder.openLink tag
    | "body" => builder.openBodyAgain
    | "frameset" => builder.openFrameset tag
    | "form" => builder.openForm tag
    | "plaintext" => { builder.closeOpenParagraph.openTag tag with reading := .plain }
    | "button" => builder.openButton tag
    | "nobr" => builder.openNobr tag
    | "table" =>
      let ready := if builder.old then builder else builder.closeOpenParagraph
      { (ready.openTag tag).withoutFrameset with mode := .inTable }
    | "input" =>
      let builder := builder.reconstruct.addTag tag
      if isHiddenInput tag then builder else builder.withoutFrameset
    | "hr" => (builder.closeOpenParagraph.addTag tag).withoutFrameset
    | "image" => (builder.reconstruct.addTag { tag with name := "img" }).withoutFrameset
    | "textarea" =>
      { builder.withoutFrameset.openContent tag (.replaceable name.toList) with
        skipsLineFeed := true }
    | "xmp" =>
      builder.closeOpenParagraph.reconstruct.withoutFrameset.openContent tag (.raw name.toList)
    | "iframe" => builder.withoutFrameset.openContent tag (.raw name.toList)
    | "noembed" => builder.openContent tag (.raw name.toList)
    | "noscript" => builder.openContent tag (.raw name.toList)
    | "select" =>
      { (builder.reconstruct.openTag tag).withoutFrameset with mode := selectModeIn builder.mode }
    | "math" => builder.openForeign .mathml tag
    | "svg" => builder.openForeign .svg tag
    | _ => builder.reconstruct.openTag tag

def closeForm (builder : Builder) : Builder :=
  if builder.inTemplate then
    if builder.inScope endsScope "form" then
      (builder.closeImplied impliedNames).popThroughName "form"
    else builder
  else
    match builder.form with
    | none => builder
    | some number =>
      let builder := { builder with form := none }
      if isWithin endsScope (·.number = number) builder.opened then
        (builder.closeImplied impliedNames).removeOpened number
      else builder

def closeInBody (builder : Builder) (name : String) : Outcome :=
  if name = "p" then
    let builder := if builder.inScope endsButtonScope "p" then builder else builder.openName "p"
    .done builder.closeParagraph
  else if (blockNames ++ ["button", "listing", "pre"]).contains name then
    .done <|
      if builder.inScope endsScope name then
        (builder.closeImplied impliedNames).popThroughName name
      else builder
  else if (["a", "nobr"] ++ styleNames).contains name then .done (builder.closeFormatting name)
  else if headingNames.contains name then
    .done <|
      if isWithin endsScope (·.isOneOf headingNames) builder.opened then
        (builder.closeImplied impliedNames).popThrough (·.isOneOf headingNames)
      else builder
  else if objectNames.contains name then
    .done <|
      if builder.inScope endsScope name then
        ((builder.closeImplied impliedNames).popThroughName name).clearToEdge
      else builder
  else if ["li", "dd", "dt"].contains name then
    .done <|
      if builder.inScope (if name = "li" then endsListScope else endsScope) name then
        (builder.closeImpliedExcept name).popThroughName name
      else builder
  else
    match name with
    | "template" => .done builder.closeTemplate
    | "body" =>
      .done (if builder.inScope endsScope "body" then { builder with mode := .afterBody }
        else builder)
    | "html" =>
      if builder.inScope endsScope "body" then .again { builder with mode := .afterBody }
      else .done builder
    | "form" => .done builder.closeForm
    | "br" => .done (builder.reconstruct.addTag ⟨"br", [], false⟩).withoutFrameset
    | _ => .done (builder.closeOrdinary name)

/-- The end of a text that leaves templates open. -/
def finishTemplate (builder : Builder) : Outcome :=
  if builder.inTemplate then .again builder.leaveTemplate else .done builder

def inBody (builder : Builder) (token : Token) : Outcome :=
  match token with
  | .blank characters => .done (builder.reconstruct.insertText characters)
  | .text characters => .done (builder.reconstruct.withoutFrameset.insertText characters)
  | .opening tag => .done (builder.openInBody tag)
  | .closing name => builder.closeInBody name
  | .finish => if builder.templateModes.isEmpty then .done builder else builder.finishTemplate
  | .nul => .done builder
  | .comment => .done builder
  | .documentType _ => .done builder

def inHead (builder : Builder) (token : Token) : Outcome :=
  let leave : Outcome := .again { builder.pop with mode := .afterHead }
  match token with
  | .blank characters => .done (builder.insertText characters)
  | .comment => .done builder
  | .opening tag =>
    if headNames.contains tag.name || tag.name = "noscript" then .done (builder.openInHead tag)
    else if ["html", "head"].contains tag.name then .done builder
    else leave
  | .closing name =>
    match name with
    | "head" => .done { builder.pop with mode := .afterHead }
    | "template" => .done builder.closeTemplate
    | "body" => leave
    | "html" => leave
    | "br" => leave
    | _ => .done builder
  | _ => leave

end IssueFeed.Html.Builder
