import PluginRecovery.Html.Rules.Head

/-!
The rules in the body of a page: paragraphs, blocks, lists, forms that overlap, and elements that
stand on their own.
-/

set_option autoImplicit false
set_option relaxedAutoImplicit false

namespace PluginRecovery.Html.Rules

open Build

def bodyText (text : List Char) : Build Unit := do
  reopenForms
  putText text

def standAlone (tag : Tag) : Build Unit := do
  reopenForms
  let _ ← insert .html tag

/-- An item closes the one before it, unless another special element than an address, a block or a
paragraph is nearer. -/
def openItem (tag : Tag) : Build Unit := do
  forbidFrames
  let b ← get
  let closes := if tag.label == "li" then ["li"] else ["dd", "dt"]
  let passes (name : Name) : Bool :=
    !name.isOneOf specialLabels || name.isOneOf ["address", "div", "p"]
  let stop := b.stack.find? fun node => b.has (Name.isOneOf closes) node || !b.has passes node
  if let some { space := .html, label } := stop.bind b.name? then
    if closes.contains label then
      closeImpliedBut label
      popLabel label
  endParagraph
  let _ ← insertOpen tag

/-- A link ends the one that is open. -/
def openLink (tag : Tag) : Build Unit := do
  if let some (node, _) := (← get).recentForms.find? (·.2.label == "a") then
    closeForm "a"
    removeForm node
    removeFromStack node
  reopenForms
  insertForm tag

def insertForeign (space : Space) (tag : Tag) : Build Unit := do
  let node ← insert space (tag.inSpace space)
  if !tag.selfClosing then push node

/-- Frames take the place of a body that has had nothing to show. -/
def framesInBody (tag : Tag) : Build Unit := do
  let b ← get
  if b.framesAllowed then
    if let some body := b.body? then
      changeDraft (·.detach body)
      modify fun b => { b with stack := b.stack.drop (b.stack.length - 1) }
      let _ ← insertOpen tag
      goTo .inFrames

/-- A second opening tag of the body adds its attributes, except in a template. -/
def bodyAgain (tag : Tag) : Build Unit := do
  let b ← get
  if let some body := b.body? then
    if !b.isOpen "template" then
      forbidFrames
      changeDraft (·.addAttributes body tag.attributes)

/-- A choice; which rules hold in it depends on whether it stands in a table. -/
def openChoice (tag : Tag) : Build Unit := do
  reopenForms
  let _ ← insertOpen tag
  forbidFrames
  let tables : List Mode := [.inTable, .inCaption, .inTableBody, .inRow, .inCell]
  modify fun b => { b with
    mode := if tables.contains b.mode then .inChoiceInTable else .inChoice }

/-- A form to fill in; one is not opened in another. -/
def openFillIn (tag : Tag) : Build Unit := do
  let b ← get
  if b.form.isNone || b.isOpen "template" then
    endParagraph
    let node ← insertOpen tag
    if !(← get).isOpen "template" then modify fun b => { b with form := some node }

def isHidden (tag : Tag) : Bool :=
  (tag.attribute? "type").any fun kind => kind.map Char.toLower == "hidden"

/-- An opening tag in the body of an element with a rule of its own for what follows. -/
def openSpecific (tag : Tag) : Build Unit := do
  match tag.label with
  | "plaintext" =>
    endParagraph
    let _ ← insertOpen tag
    modify fun b => { b with reading := .rest }
  | "button" =>
    if (← get).labelInScope Name.bounds "button" then
      closeImplied
      popLabel "button"
    reopenForms
    let _ ← insertOpen tag
    forbidFrames
  | "nobr" =>
    reopenForms
    if (← get).labelInScope Name.bounds "nobr" then
      closeForm "nobr"
      reopenForms
    insertForm tag
  | "table" =>
    if !(← get).oldManners then endParagraph
    let _ ← insertOpen tag
    forbidFrames
    goTo .inTable
  | "hr" =>
    endParagraph
    let _ ← insert .html tag
    forbidFrames
  | "textarea" =>
    modify fun b => { b with skipsBreak := true }
    forbidFrames
    insertRaw .decoded tag
  | "xmp" =>
    endParagraph
    reopenForms
    forbidFrames
    insertRaw .verbatim tag
  | "iframe" =>
    forbidFrames
    insertRaw .verbatim tag
  | "math" =>
    reopenForms
    insertForeign .mathMl tag
  | "svg" =>
    reopenForms
    insertForeign .svg tag
  | _ =>
    reopenForms
    let _ ← insertOpen tag

/-- Where the end of a ruby text is implied, close what needs no closing tag. -/
def closeRuby (but : String) : Build Unit := do
  if (← get).labelInScope Name.bounds "ruby" then closeImpliedBut but

def openInBody (tag : Tag) : Build Unit := do
  let label := tag.label
  if headLabels.contains label then headElement tag
  else if label == "body" then bodyAgain tag
  else if label == "frameset" then framesInBody tag
  else if blockLabels.contains label then
    endParagraph
    let _ ← insertOpen tag
  else if headingLabels.contains label then
    endParagraph
    if (← get).currentHas (Name.isOneOf headingLabels) then pop
    let _ ← insertOpen tag
  else if ["pre", "listing"].contains label then
    endParagraph
    let _ ← insertOpen tag
    forbidFrames
    modify fun b => { b with skipsBreak := true }
  else if label == "form" then openFillIn tag
  else if ["li", "dd", "dt"].contains label then openItem tag
  else if label == "a" then openLink tag
  else if formattingLabels.contains label then
    reopenForms
    insertForm tag
  else if ["applet", "marquee", "object"].contains label then
    reopenForms
    let _ ← insertOpen tag
    boundForms
    forbidFrames
  else if ["area", "br", "embed", "img", "keygen", "wbr", "input"].contains label then
    standAlone tag
    if !(label == "input" && isHidden tag) then forbidFrames
  else if label == "image" then
    standAlone { tag with label := "img" }
    forbidFrames
  else if ["param", "source", "track"].contains label then
    let _ ← insert .html tag
  else if ["noembed", "noscript"].contains label then insertRaw .verbatim tag
  else if label == "select" then openChoice tag
  else if ["optgroup", "option"].contains label then
    if (← get).currentIs "option" then pop
    reopenForms
    let _ ← insertOpen tag
  else if ["rb", "rtc"].contains label then
    closeRuby ""
    let _ ← insertOpen tag
  else if ["rp", "rt"].contains label then
    closeRuby "rtc"
    let _ ← insertOpen tag
  else if tablePartLabels.contains label || ["frame", "head"].contains label then return
  else openSpecific tag

def closeFillIn : Build Unit := do
  let b ← get
  if b.isOpen "template" then
    if b.labelInScope Name.bounds "form" then
      closeImplied
      popLabel "form"
  else
    modify fun b => { b with form := none }
    if let some node := b.form then
      if b.inScope Name.bounds (· == node) then
        closeImplied
        removeFromStack node

def closeInBody (label : String) : Build Unit := do
  let b ← get
  if label == "template" then closeTemplate
  else if closableLabels.contains label then
    if b.labelInScope Name.bounds label then
      closeImplied
      popLabel label
  else if label == "form" then closeFillIn
  else if label == "p" then
    if !b.labelInScope Name.boundsParagraphs "p" then insertImplied "p"
    closeParagraph
  else if label == "li" then
    if b.labelInScope Name.boundsItems label then
      closeImpliedBut label
      popLabel label
  else if ["dd", "dt"].contains label then
    if b.labelInScope Name.bounds label then
      closeImpliedBut label
      popLabel label
  else if headingLabels.contains label then
    if b.inScope Name.bounds (b.has (Name.isOneOf headingLabels)) then
      closeImplied
      popThrough (Name.isOneOf headingLabels)
  else if formattingLabels.contains label || ["a", "nobr"].contains label then closeForm label
  else if ["applet", "marquee", "object"].contains label then
    if b.labelInScope Name.bounds label then
      closeImplied
      popLabel label
      clearForms
  else if label == "br" then
    standAlone { label }
    forbidFrames
  else closeOrdinary label

def inBody (token : Token) : Build Outcome := do
  match token with
  | .zero => return .done
  | .blanks text =>
    bodyText text
    return .done
  | .words text =>
    bodyText text
    forbidFrames
    return .done
  | .comment =>
    putComment
    return .done
  | .opening tag =>
    if tag.label == "html" then rootAgain tag
    else
      openInBody tag
      return .done
  | .closing label =>
    let b ← get
    if label == "body" then
      if b.labelInScope Name.bounds "body" then goTo .afterBody
      return .done
    else if label == "html" then
      return if b.labelInScope Name.bounds "body" then .again .afterBody else .done
    else
      closeInBody label
      return .done
  | .finish => return if (← get).templateModes.isEmpty then .done else .by .inTemplate
  | .doctype _ => return .done

def inText (token : Token) : Build Outcome := do
  match token with
  | .blanks text | .words text =>
    putText text
    return .done
  | .closing _ =>
    pop
    goTo (← get).returnMode
    return .done
  | .finish =>
    pop
    return .again (← get).returnMode
  | _ => return .done

/-- By the rules of the body, with what does not fit put before the table. -/
def beforeTable (token : Token) : Build Outcome := do
  modify fun b => { b with beforeTable := true }
  let outcome ← inBody token
  modify fun b => { b with beforeTable := false }
  return outcome

end PluginRecovery.Html.Rules
