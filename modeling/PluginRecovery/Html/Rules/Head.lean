import PluginRecovery.Html.Builder

/-!
The rules before the body of a page: what may precede it, its head, and the elements that belong to
the head wherever they stand.
-/

set_option autoImplicit false
set_option relaxedAutoImplicit false

namespace PluginRecovery.Html.Rules

open Build

def openRoot (attributes : List Attribute) : Build Unit := do
  let node ← makeElement { label := "html" } attributes
  push node
  changeDraft (·.append 0 node)

/-- A second opening tag of the root adds its attributes, except in a template. -/
def rootAgain (tag : Tag) : Build Outcome := do
  let b ← get
  if !b.isOpen "template" then
    if let some root := b.stack.getLast? then changeDraft (·.addAttributes root tag.attributes)
  return .done

def initial (token : Token) : Build Outcome := do
  match token with
  | .blanks _ => return .done
  | .comment =>
    putCommentIn 0
    return .done
  | .doctype old =>
    modify fun b => { b with oldManners := old, mode := .beforeHtml }
    return .done
  | _ =>
    modify fun b => { b with oldManners := true }
    return .again .beforeHtml

/-- The closing tags that open what is missing before the body. -/
def opensMissing (label : String) : Bool :=
  ["head", "body", "html", "br"].contains label

def beforeHtml (token : Token) : Build Outcome := do
  match token with
  | .blanks _ => return .done
  | .comment =>
    putCommentIn 0
    return .done
  | .opening tag =>
    if tag.label == "html" then
      openRoot tag.attributes
      goTo .beforeHead
      return .done
    else
      openRoot []
      return .again .beforeHead
  | .closing label =>
    if opensMissing label then
      openRoot []
      return .again .beforeHead
    else return .done
  | _ =>
    openRoot []
    return .again .beforeHead

def openHead (tag : Tag) : Build Unit := do
  let node ← insertOpen tag
  modify fun b => { b with head := some node }

def beforeHead (token : Token) : Build Outcome := do
  match token with
  | .blanks _ => return .done
  | .comment =>
    putComment
    return .done
  | .opening tag =>
    if tag.label == "html" then rootAgain tag
    else if tag.label == "head" then
      openHead tag
      goTo .inHead
      return .done
    else
      openHead { label := "head" }
      return .again .inHead
  | .closing label =>
    if opensMissing label then
      openHead { label := "head" }
      return .again .inHead
    else return .done
  | _ =>
    openHead { label := "head" }
    return .again .inHead

def closeTemplate : Build Unit := do
  if (← get).isOpen "template" then
    popWhile (Name.isOneOf thoroughlyImpliedLabels)
    popLabel "template"
    clearForms
    modify fun b => { b with templateModes := b.templateModes.drop 1 }
    goToProper

def openTemplate (tag : Tag) : Build Unit := do
  let _ ← insertOpen tag
  boundForms
  forbidFrames
  modify fun b => { b with mode := .inTemplate, templateModes := .inTemplate :: b.templateModes }

/-- An opening tag of an element that belongs to the head. -/
def headElement (tag : Tag) : Build Unit := do
  if tag.label == "title" then insertRaw .decoded tag
  else if ["noframes", "style", "noscript"].contains tag.label then insertRaw .verbatim tag
  else if tag.label == "script" then insertRaw .script tag
  else if tag.label == "template" then openTemplate tag
  else
    let _ ← insert .html tag

def inHead (token : Token) : Build Outcome := do
  match token with
  | .blanks text =>
    putText text
    return .done
  | .comment =>
    putComment
    return .done
  | .opening tag =>
    if tag.label == "html" then rootAgain tag
    else if headLabels.contains tag.label || tag.label == "noscript" then
      headElement tag
      return .done
    else if tag.label == "head" then return .done
    else
      pop
      return .again .afterHead
  | .closing label =>
    if label == "head" then
      pop
      goTo .afterHead
      return .done
    else if label == "template" then
      closeTemplate
      return .done
    else if opensMissing label then
      pop
      return .again .afterHead
    else return .done
  | _ =>
    pop
    return .again .afterHead

def afterHead (token : Token) : Build Outcome := do
  match token with
  | .blanks text =>
    putText text
    return .done
  | .comment =>
    putComment
    return .done
  | .opening tag =>
    if tag.label == "html" then rootAgain tag
    else if tag.label == "body" then
      let _ ← insertOpen tag
      forbidFrames
      goTo .inBody
      return .done
    else if tag.label == "frameset" then
      let _ ← insertOpen tag
      goTo .inFrames
      return .done
    else if headLabels.contains tag.label then
      if let some head := (← get).head then
        push head
        headElement tag
        removeFromStack head
      return .done
    else if tag.label == "head" then return .done
    else
      insertImplied "body"
      return .again .inBody
  | .closing label =>
    if label == "template" then
      closeTemplate
      return .done
    else if opensMissing label && label != "head" then
      insertImplied "body"
      return .again .inBody
    else return .done
  | _ =>
    insertImplied "body"
    return .again .inBody

end PluginRecovery.Html.Rules
