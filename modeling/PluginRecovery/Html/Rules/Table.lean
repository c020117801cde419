import PluginRecovery.Html.Rules.Body

/-!
The rules in tables. A tag that belongs further out closes what is open up to there; text and
elements that do not belong into a table go before it.
-/

set_option autoImplicit false
set_option relaxedAutoImplicit false

namespace PluginRecovery.Html.Rules

open Build

def isRowGroup (label : String) : Bool :=
  ["tbody", "tfoot", "thead"].contains label

def isCell (label : String) : Bool :=
  ["td", "th"].contains label

def tableCharacters (token : Token) : Build Outcome := do
  if (← get).currentHas (Name.isOneOf tableFrameLabels) then
    modify fun b => { b with returnMode := b.mode }
    return .again .inTableText
  else beforeTable token

/-- An opening tag in a table that is a part of it. -/
def openTablePart (tag : Tag) : Build Outcome := do
  popUntil Name.boundsTables
  if tag.label == "caption" then
    boundForms
    let _ ← insertOpen tag
    goTo .inCaption
    return .done
  else if tag.label == "colgroup" then
    let _ ← insertOpen tag
    goTo .inColumns
    return .done
  else if tag.label == "col" then
    insertImplied "colgroup"
    return .again .inColumns
  else if isRowGroup tag.label then
    let _ ← insertOpen tag
    goTo .inTableBody
    return .done
  else
    insertImplied "tbody"
    return .again .inTableBody

def inTable (token : Token) : Build Outcome := do
  match token with
  | .zero | .blanks _ | .words _ => tableCharacters token
  | .comment =>
    putComment
    return .done
  | .opening tag =>
    if tablePartLabels.contains tag.label then openTablePart tag
    else if tag.label == "table" then
      if (← get).labelInScope Name.boundsTables "table" then
        popLabel "table"
        return .again (← get).properMode
      else return .done
    else if ["style", "script", "template"].contains tag.label then
      headElement tag
      return .done
    else if tag.label == "input" && isHidden tag then
      let _ ← insert .html tag
      return .done
    else if tag.label == "form" then
      let b ← get
      if !b.isOpen "template" && b.form.isNone then
        let node ← insert .html tag
        modify fun b => { b with form := some node }
      return .done
    else beforeTable token
  | .closing label =>
    if label == "table" then
      if (← get).labelInScope Name.boundsTables "table" then
        popLabel "table"
        goToProper
      return .done
    else if tablePartLabels.contains label || ["body", "html"].contains label then return .done
    else if label == "template" then
      closeTemplate
      return .done
    else beforeTable token
  | .finish => return .by .inBody
  | .doctype _ => return .done

/-- Put the text read in a table: in its place when it is all blank, else before the table. -/
def putTableText (tokens : List Token) : Build Unit := do
  let isBlank (token : Token) : Bool :=
    match token with
    | .blanks _ => true
    | _ => false
  if tokens.all isBlank then
    for token in tokens do
      if let .blanks text := token then putText text
  else
    for token in tokens do
      let _ ← beforeTable token

def inTableText (token : Token) : Build Outcome := do
  match token with
  | .zero => return .done
  | .blanks _ | .words _ =>
    modify fun b => { b with tableText := token :: b.tableText }
    return .done
  | _ =>
    let b ← get
    set { b with tableText := [] }
    putTableText b.tableText.reverse
    return .again b.returnMode

def closeCaption : Build Unit := do
  closeImplied
  popLabel "caption"
  clearForms

def inCaption (token : Token) : Build Outcome := do
  let inScope := (← get).labelInScope Name.boundsTables "caption"
  match token with
  | .opening tag =>
    if tablePartLabels.contains tag.label then
      if inScope then
        closeCaption
        return .again .inTable
      else return .done
    else inBody token
  | .closing label =>
    if ["table", "caption"].contains label then
      if inScope then
        closeCaption
        if label == "caption" then
          goTo .inTable
          return .done
        else return .again .inTable
      else return .done
    else if tablePartLabels.contains label || ["body", "html"].contains label then return .done
    else inBody token
  | _ => inBody token

/-- A token that belongs to no columns. -/
def leaveColumns : Build Outcome := do
  if (← get).currentIs "colgroup" then
    pop
    return .again .inTable
  else return .done

def inColumns (token : Token) : Build Outcome := do
  match token with
  | .blanks text =>
    putText text
    return .done
  | .comment =>
    putComment
    return .done
  | .opening tag =>
    if tag.label == "html" then rootAgain tag
    else if tag.label == "col" then
      let _ ← insert .html tag
      return .done
    else if tag.label == "template" then
      headElement tag
      return .done
    else leaveColumns
  | .closing label =>
    if label == "colgroup" then
      if (← get).currentIs "colgroup" then
        pop
        goTo .inTable
      return .done
    else if label == "col" then return .done
    else if label == "template" then
      closeTemplate
      return .done
    else leaveColumns
  | .finish => return .by .inBody
  | _ => leaveColumns

/-- Close what is open in a group of rows, and the group. -/
def closeRowGroup : Build Unit := do
  popUntil (Name.isOneOf ["tbody", "tfoot", "thead", "template", "html"])
  pop

/-- Close a group of rows for a token that belongs further out. -/
def leaveRowGroup : Build Outcome := do
  let b ← get
  if b.inScope Name.boundsTables (b.has (Name.isOneOf ["table", "tbody", "tfoot"])) then
    closeRowGroup
    return .again .inTable
  else return .done

def inTableBody (token : Token) : Build Outcome := do
  let rowGroup := Name.isOneOf ["tbody", "tfoot", "thead", "template", "html"]
  match token with
  | .opening tag =>
    if tag.label == "tr" then
      popUntil rowGroup
      let _ ← insertOpen tag
      goTo .inRow
      return .done
    else if isCell tag.label then
      popUntil rowGroup
      insertImplied "tr"
      return .again .inRow
    else if tablePartLabels.contains tag.label then leaveRowGroup
    else inTable token
  | .closing label =>
    if isRowGroup label then
      if (← get).labelInScope Name.boundsTables label then
        closeRowGroup
        goTo .inTable
      return .done
    else if label == "table" then leaveRowGroup
    else if tablePartLabels.contains label || ["body", "html"].contains label then return .done
    else inTable token
  | _ => inTable token

/-- Close what is open in a row, and the row. -/
def closeRow : Build Unit := do
  popUntil (Name.isOneOf ["tr", "template", "html"])
  pop

/-- Close a row for a token that belongs further out. -/
def leaveRow : Build Outcome := do
  if (← get).labelInScope Name.boundsTables "tr" then
    closeRow
    return .again .inTableBody
  else return .done

def inRow (token : Token) : Build Outcome := do
  match token with
  | .opening tag =>
    if isCell tag.label then
      popUntil (Name.isOneOf ["tr", "template", "html"])
      let _ ← insertOpen tag
      goTo .inCell
      boundForms
      return .done
    else if tablePartLabels.contains tag.label then leaveRow
    else inTable token
  | .closing label =>
    if label == "tr" then
      if (← get).labelInScope Name.boundsTables "tr" then
        closeRow
        goTo .inTableBody
      return .done
    else if label == "table" then leaveRow
    else if isRowGroup label then
      if (← get).labelInScope Name.boundsTables label then leaveRow else return .done
    else if tablePartLabels.contains label || ["body", "html"].contains label then return .done
    else inTable token
  | _ => inTable token

def closeCell : Build Unit := do
  closeImplied
  popThrough (Name.isOneOf ["td", "th"])
  clearForms

def inCell (token : Token) : Build Outcome := do
  let b ← get
  match token with
  | .opening tag =>
    if tablePartLabels.contains tag.label then
      if b.inScope Name.boundsTables (b.has (Name.isOneOf ["td", "th"])) then
        closeCell
        return .again .inRow
      else return .done
    else inBody token
  | .closing label =>
    if isCell label then
      if b.labelInScope Name.boundsTables label then
        closeImplied
        popLabel label
        clearForms
        goTo .inRow
      return .done
    else if tableFrameLabels.contains label then
      if b.labelInScope Name.boundsTables label then
        closeCell
        return .again .inRow
      else return .done
    else if tablePartLabels.contains label || ["body", "html"].contains label then return .done
    else inBody token
  | _ => inBody token

end PluginRecovery.Html.Rules
