import PluginRecovery.Html.Rules.Table

/-!
The rules in choices, in templates, among frames, after the body, and in foreign markup.
-/

set_option autoImplicit false
set_option relaxedAutoImplicit false

namespace PluginRecovery.Html.Rules

open Build

def closeChoice : Build Outcome := do
  popLabel "select"
  return .again (← get).properMode

/-- The opening tag of an option or a group of options ends the option before it. -/
def openOption (tag : Tag) : Build Unit := do
  if (← get).currentIs "option" then pop
  if tag.label == "optgroup" && (← get).currentIs "optgroup" then pop
  let _ ← insertOpen tag

/-- The closing tag of a group of options ends the option in it. -/
def closeOptionGroup : Build Unit := do
  let b ← get
  let inGroup := (b.stack[1]?).any (b.has (Name.isNamed "optgroup"))
  if b.currentIs "option" && inGroup then pop
  if (← get).currentIs "optgroup" then pop

def inChoice (token : Token) : Build Outcome := do
  let inScope := (← get).labelInScope Name.boundsChoices "select"
  match token with
  | .blanks text | .words text =>
    putText text
    return .done
  | .comment =>
    putComment
    return .done
  | .opening tag =>
    if tag.label == "html" then rootAgain tag
    else if ["option", "optgroup"].contains tag.label then
      openOption tag
      return .done
    else if tag.label == "select" then
      if inScope then
        popLabel "select"
        goToProper
      return .done
    else if ["input", "keygen", "textarea"].contains tag.label then
      if inScope then closeChoice else return .done
    else if ["script", "template"].contains tag.label then
      headElement tag
      return .done
    else return .done
  | .closing label =>
    if label == "optgroup" then closeOptionGroup
    else if label == "option" then
      if (← get).currentIs "option" then pop
    else if label == "select" then
      if inScope then
        popLabel "select"
        goToProper
    else if label == "template" then closeTemplate
    return .done
  | .finish => return .by .inBody
  | _ => return .done

def inChoiceInTable (token : Token) : Build Outcome := do
  let belongs (label : String) : Bool :=
    tableFrameLabels.contains label || ["caption", "td", "th"].contains label
  match token with
  | .opening tag => if belongs tag.label then closeChoice else inChoice token
  | .closing label =>
    if belongs label then
      if (← get).labelInScope Name.boundsTables label then closeChoice else return .done
    else inChoice token
  | _ => inChoice token

/-- How the contents of a template are read that begin with an element. -/
def contentsMode (label : String) : Mode :=
  if ["caption", "colgroup", "tbody", "tfoot", "thead"].contains label then .inTable
  else if label == "col" then .inColumns
  else if label == "tr" then .inTableBody
  else if isCell label then .inRow
  else .inBody

def inTemplate (token : Token) : Build Outcome := do
  match token with
  | .blanks _ | .words _ | .comment => inBody token
  | .opening tag =>
    if headLabels.contains tag.label then
      headElement tag
      return .done
    else
      let mode := contentsMode tag.label
      modify fun b => { b with templateModes := mode :: b.templateModes.drop 1 }
      return .again mode
  | .closing label =>
    if label == "template" then closeTemplate
    return .done
  | .finish =>
    if (← get).isOpen "template" then
      popLabel "template"
      clearForms
      modify fun b => { b with templateModes := b.templateModes.drop 1 }
      return .again (← get).properMode
    else return .done
  | _ => return .done

def afterBody (token : Token) : Build Outcome := do
  match token with
  | .blanks _ => inBody token
  | .comment =>
    if let some root := (← get).stack.getLast? then putCommentIn root
    return .done
  | .opening tag => if tag.label == "html" then rootAgain tag else return .again .inBody
  | .closing label =>
    if label == "html" then
      goTo .afterAfterBody
      return .done
    else return .again .inBody
  | .finish => return .done
  | _ => return .again .inBody

/-- After the root. -/
def afterAfterBody (token : Token) : Build Outcome := do
  match token with
  | .blanks _ => inBody token
  | .comment =>
    putCommentIn 0
    return .done
  | .finish => return .done
  | .opening tag => if tag.label == "html" then rootAgain tag else return .again .inBody
  | _ => return .again .inBody

def inFrames (token : Token) : Build Outcome := do
  match token with
  | .blanks text => putText text
  | .comment => putComment
  | .opening tag =>
    if tag.label == "html" then
      let _ ← rootAgain tag
    else if tag.label == "frameset" then
      let _ ← insertOpen tag
    else if tag.label == "frame" then
      let _ ← insert .html tag
    else if tag.label == "noframes" then headElement tag
  | .closing label =>
    if label == "frameset" && 1 < (← get).stack.length then
      pop
      if !(← get).currentIs "frameset" then goTo .afterFrames
  | _ => return .done
  return .done

def afterFrames (token : Token) : Build Outcome := do
  match token with
  | .blanks text => putText text
  | .comment => putComment
  | .opening tag =>
    if tag.label == "html" then
      let _ ← rootAgain tag
    else if tag.label == "noframes" then headElement tag
  | .closing label => if label == "html" then goTo .afterAfterFrames
  | _ => return .done
  return .done

/-- After the root of a page with frames. -/
def afterAfterFrames (token : Token) : Build Outcome := do
  match token with
  | .blanks _ => inBody token
  | .comment =>
    putCommentIn 0
    return .done
  | .opening tag =>
    if tag.label == "html" then rootAgain tag
    else
      if tag.label == "noframes" then headElement tag
      return .done
  | _ => return .done

/-- The rules of a mode. -/
def ofMode : Mode → Token → Build Outcome
  | .initial => initial
  | .beforeHtml => beforeHtml
  | .beforeHead => beforeHead
  | .inHead => inHead
  | .afterHead => afterHead
  | .inBody => inBody
  | .text => inText
  | .inTable => inTable
  | .inTableText => inTableText
  | .inCaption => inCaption
  | .inColumns => inColumns
  | .inTableBody => inTableBody
  | .inRow => inRow
  | .inCell => inCell
  | .inChoice => inChoice
  | .inChoiceInTable => inChoiceInTable
  | .inTemplate => inTemplate
  | .afterBody => afterBody
  | .inFrames => inFrames
  | .afterFrames => afterFrames
  | .afterAfterBody => afterAfterBody
  | .afterAfterFrames => afterAfterFrames

/-- Whether a token belongs to the foreign markup around it. -/
def isForeign (b : Builder) (token : Token) : Bool :=
  match b.stack.head?.bind b.name? with
  | none => false
  | some name =>
    let inText := match token with
      | .blanks _ | .words _ | .zero => true
      | _ => false
    let opens := match token with
      | .opening tag => some tag.label
      | _ => none
    if name.space == .html || token == .finish then false
    else if name.holdsFormulaText &&
        (inText || opens.any fun label => ! ["mglyph", "malignmark"].contains label) then false
    else if name.holdsPagePart && (inText || opens.isSome) then false
    else !(name.space == .mathMl && name.label == "annotation-xml" && opens == some "svg")

/-- Whether an opening tag ends foreign markup. -/
def breaksOut (tag : Tag) : Bool :=
  breakoutLabels.contains tag.label ||
    (tag.label == "font" && tag.attributes.any fun a => ["color", "face", "size"].contains a.label)

def openForeign (tag : Tag) : Build Unit := do
  let b ← get
  let space := ((b.stack.head?.bind b.name?).map (·.space)).getD .html
  let label := if space == .svg then capitalized drawingLabels tag.label else tag.label
  insertForeign space { tag with label }

/-- Close the element of foreign markup that a closing tag names, whatever the case of its name.
From the first element of the page on, the rules of the mode decide. -/
def closeForeign (label : String) : Build Outcome := do
  let b ← get
  let matching (node : Nat) : Bool := (b.name? node).any (·.label.map Char.toLower == label)
  let isPage (node : Nat) : Bool := b.has (·.space == .html) node
  match b.stack with
  | [] => return .done
  | current :: rest =>
    if matching current then
      pop
      return .done
    else
      match rest.dropWhile fun node => !isPage node && !matching node with
      | [] => return .done
      | [_] => return .done
      | node :: below =>
        if isPage node then return .by b.mode
        else
          set { b with stack := below }
          return .done

def inForeign (token : Token) : Build Outcome := do
  match token with
  | .zero =>
    putText [Text.replacement]
    return .done
  | .blanks text =>
    putText text
    return .done
  | .words text =>
    putText text
    forbidFrames
    return .done
  | .comment =>
    putComment
    return .done
  | .opening tag =>
    if breaksOut tag then
      pop
      popUntil fun name => name.space == .html || name.holdsFormulaText || name.holdsPagePart
      return .again (← get).mode
    else
      openForeign tag
      return .done
  | .closing label => closeForeign label
  | _ => return .done

end PluginRecovery.Html.Rules
