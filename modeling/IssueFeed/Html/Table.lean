import IssueFeed.Html.Body

/-!
The rules for tables and for lists of choices. What does not belong into a table is dealt with by
the rules for a body, and goes before the table.
-/
namespace IssueFeed.Html.Builder

def endsRowContext (element : OpenElement) : Bool :=
  element.isOneOf ["tr", "template", "html"]

def endsBodyContext (element : OpenElement) : Bool :=
  element.isOneOf ["tbody", "tfoot", "thead", "template", "html"]

def rowGroupNames : List String :=
  ["tbody", "tfoot", "thead"]

def cellNames : List String :=
  ["td", "th"]

/-- The tags of a table's outer parts, which end what is open in an inner part. -/
def outerNames : List String :=
  ["caption", "col", "colgroup"] ++ rowGroupNames

def Outcome.map (change : Builder → Builder) : Outcome → Outcome
  | .done builder => .done (change builder)
  | .again builder => .again (change builder)

/-- Deals with a token by the rules for a body, and puts what it brings before the table. -/
def foster (builder : Builder) (token : Token) : Outcome :=
  Outcome.map (fun builder => { builder with fostering := false })
    ({ builder with fostering := true }.inBody token)

/-- Text in a table is held back until it ends: if it is blank it may stay. -/
def textInTable (builder : Builder) (token : Token) : Outcome :=
  if builder.currentIsOneOf tableParts then
    .again { builder with returnMode := builder.mode, mode := .inTableText }
  else builder.foster token

def builderOf : Outcome → Builder
  | .done builder => builder
  | .again builder => builder

/-- Adds the text that was held back, each part of it before the table if any of it is not blank. -/
def addTableText (builder : Builder) : Builder :=
  let parts := builder.tableText
  let builder := { builder with tableText := [] }
  let allBlank := parts.all fun
    | .blank _ => true
    | _ => false
  parts.foldl (fun builder part =>
    if allBlank then
      match part with
      | .blank characters => builder.insertText characters
      | _ => builder
    else builderOf (builder.foster part)) builder

def inTableText (builder : Builder) (token : Token) : Outcome :=
  match token with
  | .nul => .done builder
  | .blank _ => .done { builder with tableText := builder.tableText ++ [token] }
  | .text _ => .done { builder with tableText := builder.tableText ++ [token] }
  | _ =>
    let builder := builder.addTableText
    .again { builder with mode := builder.returnMode }

def openInTable (builder : Builder) (tag : Tag) : Outcome :=
  let cleared := builder.popTo endsTableScope
  match tag.name with
  | "caption" => .done { cleared.addEdge.openTag tag with mode := .inCaption }
  | "colgroup" => .done { cleared.openTag tag with mode := .inColumnGroup }
  | "col" => .again { cleared.openName "colgroup" with mode := .inColumnGroup }
  | "tbody" => .done { cleared.openTag tag with mode := .inTableBody }
  | "tfoot" => .done { cleared.openTag tag with mode := .inTableBody }
  | "thead" => .done { cleared.openTag tag with mode := .inTableBody }
  | "td" => .again { cleared.openName "tbody" with mode := .inTableBody }
  | "th" => .again { cleared.openName "tbody" with mode := .inTableBody }
  | "tr" => .again { cleared.openName "tbody" with mode := .inTableBody }
  | "table" =>
    if builder.inScope endsTableScope "table" then
      .again (builder.popThroughName "table").resetMode
    else .done builder
  | "style" => .done (builder.openInHead tag)
  | "script" => .done (builder.openInHead tag)
  | "template" => .done (builder.openInHead tag)
  | "input" =>
    if isHiddenInput tag then .done (builder.addTag tag) else builder.foster (.opening tag)
  | "form" =>
    if builder.inTemplate || builder.form.isSome then .done builder
    else
      let (builder, element) := builder.insertElement .html tag
      .done { builder with form := some element.number }
  | _ => builder.foster (.opening tag)

def closeInTable (builder : Builder) (name : String) : Outcome :=
  if name = "table" then
    .done <|
      if builder.inScope endsTableScope "table" then (builder.popThroughName "table").resetMode
      else builder
  else if name = "template" then .done builder.closeTemplate
  else if (outerNames ++ cellNames ++ ["body", "html", "tr"]).contains name then .done builder
  else builder.foster (.closing name)

def inTable (builder : Builder) (token : Token) : Outcome :=
  match token with
  | .nul => builder.textInTable token
  | .blank _ => builder.textInTable token
  | .text _ => builder.textInTable token
  | .opening tag => builder.openInTable tag
  | .closing name => builder.closeInTable name
  | .finish => builder.inBody token
  | .comment => .done builder
  | .documentType _ => .done builder

def closeCaption (builder : Builder) : Builder :=
  let builder := ((builder.closeImplied impliedNames).popThroughName "caption").clearToEdge
  { builder with mode := .inTable }

def inCaption (builder : Builder) (token : Token) : Outcome :=
  let closable := builder.inScope endsTableScope "caption"
  match token with
  | .opening tag =>
    if (outerNames ++ cellNames ++ ["tr"]).contains tag.name then
      if closable then .again builder.closeCaption else .done builder
    else builder.inBody token
  | .closing name =>
    if name = "caption" then .done (if closable then builder.closeCaption else builder)
    else if name = "table" then if closable then .again builder.closeCaption else .done builder
    else if (outerNames ++ cellNames ++ ["body", "html", "tr"]).contains name then .done builder
    else builder.inBody token
  | _ => builder.inBody token

def inColumnGroup (builder : Builder) (token : Token) : Outcome :=
  let closed := { builder.pop with mode := .inTable }
  let leave : Outcome :=
    if builder.currentIs "colgroup" then .again closed else .done builder
  match token with
  | .blank characters => .done (builder.insertText characters)
  | .comment => .done builder
  | .finish => builder.inBody token
  | .opening tag =>
    match tag.name with
    | "html" => .done builder
    | "col" => .done (builder.addTag tag)
    | "template" => .done (builder.openInHead tag)
    | _ => leave
  | .closing name =>
    match name with
    | "colgroup" => .done (if builder.currentIs "colgroup" then closed else builder)
    | "col" => .done builder
    | "template" => .done builder.closeTemplate
    | _ => leave
  | _ => leave

def closeRowGroup (builder : Builder) : Builder :=
  { (builder.popTo endsBodyContext).pop with mode := .inTable }

def inTableBody (builder : Builder) (token : Token) : Outcome :=
  let leave : Outcome :=
    if isWithin endsTableScope (·.isOneOf ["table", "tbody", "tfoot"]) builder.opened then
      .again builder.closeRowGroup
    else .done builder
  match token with
  | .opening tag =>
    if tag.name = "tr" then
      .done { (builder.popTo endsBodyContext).openTag tag with mode := .inRow }
    else if cellNames.contains tag.name then
      .again { (builder.popTo endsBodyContext).openName "tr" with mode := .inRow }
    else if outerNames.contains tag.name then leave
    else builder.inTable token
  | .closing name =>
    if rowGroupNames.contains name then
      .done (if builder.inScope endsTableScope name then builder.closeRowGroup else builder)
    else if name = "table" then leave
    else if (["body", "caption", "col", "colgroup", "html", "tr"] ++ cellNames).contains name then
      .done builder
    else builder.inTable token
  | _ => builder.inTable token

def closeRow (builder : Builder) : Builder :=
  { (builder.popTo endsRowContext).pop with mode := .inTableBody }

def inRow (builder : Builder) (token : Token) : Outcome :=
  let closable := builder.inScope endsTableScope "tr"
  let leave : Outcome := if closable then .again builder.closeRow else .done builder
  match token with
  | .opening tag =>
    if cellNames.contains tag.name then
      .done { ((builder.popTo endsRowContext).openTag tag).addEdge with mode := .inCell }
    else if tag.name = "tr" || outerNames.contains tag.name then leave
    else builder.inTable token
  | .closing name =>
    if name = "tr" then .done (if closable then builder.closeRow else builder)
    else if name = "table" then leave
    else if rowGroupNames.contains name then
      if builder.inScope endsTableScope name then leave else .done builder
    else if (["body", "caption", "col", "colgroup", "html"] ++ cellNames).contains name then
      .done builder
    else builder.inTable token
  | _ => builder.inTable token

def closeCell (builder : Builder) : Builder :=
  let builder :=
    ((builder.closeImplied impliedNames).popThrough (·.isOneOf cellNames)).clearToEdge
  { builder with mode := .inRow }

def inCell (builder : Builder) (token : Token) : Outcome :=
  match token with
  | .opening tag =>
    if tag.name = "tr" || (outerNames ++ cellNames).contains tag.name then
      if isWithin endsTableScope (·.isOneOf cellNames) builder.opened then .again builder.closeCell
      else .done builder
    else builder.inBody token
  | .closing name =>
    if cellNames.contains name then
      .done <|
        if builder.inScope endsTableScope name then
          let builder := ((builder.closeImplied impliedNames).popThroughName name).clearToEdge
          { builder with mode := .inRow }
        else builder
    else if ["body", "caption", "col", "colgroup", "html"].contains name then .done builder
    else if (["table", "tr"] ++ rowGroupNames).contains name then
      if builder.inScope endsTableScope name then .again builder.closeCell else .done builder
    else builder.inBody token
  | _ => builder.inBody token

def leaveSelect (builder : Builder) : Builder :=
  (builder.popThroughName "select").resetMode

def popIf (name : String) (builder : Builder) : Builder :=
  if builder.currentIs name then builder.pop else builder

def openInSelect (builder : Builder) (tag : Tag) : Outcome :=
  let closable := builder.inScope endsSelectScope "select"
  match tag.name with
  | "option" => .done ((builder.popIf "option").openTag tag)
  | "optgroup" => .done (((builder.popIf "option").popIf "optgroup").openTag tag)
  | "hr" => .done (((builder.popIf "option").popIf "optgroup").addTag tag)
  | "select" => .done (if closable then builder.leaveSelect else builder)
  | "input" => if closable then .again builder.leaveSelect else .done builder
  | "keygen" => if closable then .again builder.leaveSelect else .done builder
  | "textarea" => if closable then .again builder.leaveSelect else .done builder
  | "script" => .done (builder.openInHead tag)
  | "template" => .done (builder.openInHead tag)
  | _ => .done builder

def closeInSelect (builder : Builder) (name : String) : Builder :=
  match name with
  | "optgroup" =>
    let inGroup := (builder.opened.drop 1).head?.any (·.isHtml "optgroup")
    (if inGroup then builder.popIf "option" else builder).popIf "optgroup"
  | "option" => builder.popIf "option"
  | "select" => if builder.inScope endsSelectScope "select" then builder.leaveSelect else builder
  | "template" => builder.closeTemplate
  | _ => builder

def inSelect (builder : Builder) (token : Token) : Outcome :=
  match token with
  | .blank characters => .done (builder.insertText characters)
  | .text characters => .done (builder.insertText characters)
  | .opening tag => builder.openInSelect tag
  | .closing name => .done (builder.closeInSelect name)
  | .finish => builder.inBody token
  | .nul => .done builder
  | .comment => .done builder
  | .documentType _ => .done builder

/-- The tags of a table's parts, which end a list of choices in it. -/
def partNames : List String :=
  ["caption", "table", "tr"] ++ rowGroupNames ++ cellNames

def inSelectInTable (builder : Builder) (token : Token) : Outcome :=
  match token with
  | .opening tag =>
    if partNames.contains tag.name then .again builder.leaveSelect else builder.inSelect token
  | .closing name =>
    if partNames.contains name then
      if builder.inScope endsTableScope name then .again builder.leaveSelect else .done builder
    else builder.inSelect token
  | _ => builder.inSelect token

end IssueFeed.Html.Builder
