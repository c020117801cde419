import PluginRecovery.Html.Draft
import PluginRecovery.Html.Vocabulary

/-!
Building a page: the elements that are open, the forms that go on, and the ways in which elements
are put, closed and reopened. Every rule of the page's structure is written with these.
-/

set_option autoImplicit false
set_option relaxedAutoImplicit false

namespace PluginRecovery.Html

/-- What is being read. -/
inductive Mode
  | initial
  | beforeHtml
  | beforeHead
  | inHead
  | afterHead
  | inBody
  | text
  | inTable
  | inTableText
  | inCaption
  | inColumns
  | inTableBody
  | inRow
  | inCell
  | inChoice
  | inChoiceInTable
  | inTemplate
  | afterBody
  | inFrames
  | afterFrames
  | afterAfterBody
  | afterAfterFrames
  deriving DecidableEq, Repr

/-- A form that goes on, or a bound that forms do not cross. -/
inductive Form
  | bound
  | element (node : Nat) (tag : Tag)
  deriving DecidableEq, Repr

/-- A page being built. -/
structure Builder where
  draft : Draft := .empty
  mode : Mode := .initial
  /-- The mode to go back to after text. -/
  returnMode : Mode := .initial
  /-- How the contents of the open templates are read, the innermost first. -/
  templateModes : List Mode := []
  /-- The open elements, the innermost first. -/
  stack : List Nat := []
  /-- The forms that go on, the newest first. -/
  forms : List Form := []
  head : Option Nat := none
  form : Option Nat := none
  framesAllowed : Bool := true
  /-- What cannot stand in a table is put before it. -/
  beforeTable : Bool := false
  oldManners : Bool := false
  /-- A line break that comes next is left out. -/
  skipsBreak : Bool := false
  /-- The runs of text read in a table, the newest first. -/
  tableText : List Token := []
  reading : Reading := .markup

/-- A step of the building of a page. -/
abbrev Build := StateM Builder

/-- What a rule leaves to do with its token. -/
inductive Outcome
  | done
  /-- Go on in another mode with the same token. -/
  | again (mode : Mode)
  /-- Treat the token by the rules of another mode, without going over to it. -/
  | by (mode : Mode)
  deriving DecidableEq, Repr

namespace Builder

def name? (b : Builder) (node : Nat) : Option Name := b.draft.name? node

def has (b : Builder) (p : Name → Bool) (node : Nat) : Bool := (b.name? node).any p

def currentHas (b : Builder) (p : Name → Bool) : Bool := b.stack.head?.any (b.has p)

def currentIs (b : Builder) (label : String) : Bool := b.currentHas (Name.isNamed label)

def isOpen (b : Builder) (label : String) : Bool := b.stack.any (b.has (Name.isNamed label))

/-- Whether an open element satisfies `p` with none further in that bounds the search. -/
def inScope (b : Builder) (bounds : Name → Bool) (p : Nat → Bool) : Bool :=
  find b.stack
where
  /-- The search, innermost first. -/
  find : List Nat → Bool
    | [] => false
    | node :: rest => p node || (!b.has bounds node && find rest)

/-- Whether an open element with a label is in scope. -/
def labelInScope (b : Builder) (bounds : Name → Bool) (label : String) : Bool :=
  b.inScope bounds (b.has (Name.isNamed label))

/-- The forms up to the newest bound, with their elements and tags. -/
def recentForms (b : Builder) : List (Nat × Tag) :=
  recent b.forms
where
  /-- The forms before the first bound. -/
  recent : List Form → List (Nat × Tag)
    | .element node tag :: rest => (node, tag) :: recent rest
    | _ => []

def formIs (node : Nat) : Form → Bool
  | .bound => false
  | .element other _ => other == node

def hasForm (b : Builder) (node : Nat) : Bool := b.forms.any (formIs node)

/-- The body, when it is open. -/
def body? (b : Builder) : Option Nat :=
  (b.stack.reverse[1]?).filter (b.has (Name.isNamed "body"))

/-- The mode that the open elements call for. -/
def properMode (b : Builder) : Mode :=
  find b.stack
where
  /-- The mode in which a choice is read that stands in the given elements. -/
  choiceMode : List Nat → Mode
    | [] => .inChoice
    | node :: rest =>
      if b.has (Name.isNamed "template") node then .inChoice
      else if b.has (Name.isNamed "table") node then .inChoiceInTable
      else choiceMode rest
  /-- The search, innermost first. -/
  find : List Nat → Mode
    | [] => .inBody
    | node :: rest =>
      let label := match b.name? node with
        | some { space := .html, label } => label
        | _ => ""
      match label with
      | "select" => choiceMode rest
      | "td" | "th" => if rest.isEmpty then find rest else .inCell
      | "tr" => .inRow
      | "tbody" | "thead" | "tfoot" => .inTableBody
      | "caption" => .inCaption
      | "colgroup" => .inColumns
      | "table" => .inTable
      | "template" => b.templateModes.head?.getD .inBody
      | "head" => if rest.isEmpty then find rest else .inHead
      | "body" => .inBody
      | "frameset" => .inFrames
      | "html" => if b.head.isNone then .beforeHead else .afterHead
      | _ => find rest

/-- Where something is put: behind all else in an element, or before a table. -/
inductive Spot
  | last (node : Nat)
  | beforeTable (table outer : Nat)

/-- What holds the contents of an element: for a template a node of its own. -/
def holder (b : Builder) (node : Nat) : Nat :=
  if b.has (Name.isNamed "template") node then ((b.draft.children node).getLast?).getD node
  else node

/-- Where what belongs into `target` is put. While it goes before tables, that is right before the
innermost open one, or into a template further in. -/
def spotIn (b : Builder) (target : Nat) : Spot :=
  if b.beforeTable && b.has (Name.isOneOf tableFrameLabels) target then find b.stack
  else .last (b.holder target)
where
  /-- The search, innermost first. -/
  find : List Nat → Spot
    | [] => .last target
    | [outermost] => .last outermost
    | node :: outer :: rest =>
      if b.has (Name.isNamed "template") node then .last (b.holder node)
      else if b.has (Name.isNamed "table") node then .beforeTable node outer
      else find (outer :: rest)

/-- Where what comes next is put. -/
def spot (b : Builder) : Spot := b.spotIn (b.stack.head?.getD 0)

end Builder

namespace Build

open Builder

def changeDraft (f : Draft → Draft) : Build Unit :=
  modify fun b => { b with draft := f b.draft }

def make (content : Content) : Build Nat :=
  modifyGet fun b =>
    let (draft, node) := b.draft.make content
    (node, { b with draft })

/-- Make an element. A template gets a node that holds its contents. -/
def makeElement (name : Name) (attributes : List Attribute) : Build Nat := do
  let node ← make (.element name attributes)
  if name.isNamed "template" then
    let held ← make .held
    changeDraft (·.append node held)
  return node

def putNode (at_ : Spot) (node : Nat) : Build Unit :=
  changeDraft fun draft =>
    match at_ with
    | .last parent => draft.append parent node
    | .beforeTable table outer =>
      match draft.parent? table with
      | some parent => draft.insertBefore parent table node
      | none => draft.append outer node

def putText (text : List Char) : Build Unit := do
  let at_ := (← get).spot
  changeDraft fun draft =>
    match at_ with
    | .last parent => draft.appendText parent (String.ofList text)
    | .beforeTable table outer =>
      match draft.parent? table with
      | some parent => draft.insertTextBefore parent table (String.ofList text)
      | none => draft.appendText outer (String.ofList text)

def putComment : Build Unit := do
  let node ← make .comment
  putNode (← get).spot node

/-- Put a comment behind all else in a node. -/
def putCommentIn (parent : Nat) : Build Unit := do
  let node ← make .comment
  changeDraft (·.append parent node)

def push (node : Nat) : Build Unit :=
  modify fun b => { b with stack := node :: b.stack }

def pop : Build Unit :=
  modify fun b => { b with stack := b.stack.drop 1 }

/-- Put a new element where it belongs. -/
def insert (space : Space) (tag : Tag) : Build Nat := do
  let node ← makeElement { space, label := tag.label } tag.attributes
  putNode (← get).spot node
  return node

def insertOpen (tag : Tag) : Build Nat := do
  let node ← insert .html tag
  push node
  return node

/-- Put a new element that no tag names where it belongs and open it. -/
def insertImplied (label : String) : Build Unit := do
  let _ ← insertOpen { label }

def goTo (mode : Mode) : Build Unit :=
  modify fun b => { b with mode }

def goToProper : Build Unit :=
  modify fun b => { b with mode := b.properMode }

/-- From here on the page can have no frames. -/
def forbidFrames : Build Unit :=
  modify fun b => { b with framesAllowed := false }

def popWhile (p : Name → Bool) : Build Unit :=
  modify fun b => { b with stack := b.stack.dropWhile (b.has p) }

/-- Close elements up to and with the first that has a property. -/
def popThrough (p : Name → Bool) : Build Unit :=
  modify fun b => { b with stack := (b.stack.dropWhile (!b.has p ·)).drop 1 }

def popUntil (p : Name → Bool) : Build Unit :=
  modify fun b => { b with stack := b.stack.dropWhile (!b.has p ·) }

def popLabel (label : String) : Build Unit := popThrough (Name.isNamed label)

/-- Close the elements that need no closing tag. -/
def closeImplied : Build Unit := popWhile (Name.isOneOf impliedLabels)

/-- Close the elements that need no closing tag, up to one with a label. -/
def closeImpliedBut (label : String) : Build Unit :=
  popWhile fun name => name.isOneOf impliedLabels && !name.isNamed label

/-- Close the open paragraph with what needs no closing tag in it. -/
def closeParagraph : Build Unit := do
  closeImpliedBut "p"
  popLabel "p"

/-- Close the open paragraph, if one is in scope. -/
def endParagraph : Build Unit := do
  if (← get).labelInScope Name.boundsParagraphs "p" then closeParagraph

/-- Close an element without regard to those further in. -/
def removeFromStack (node : Nat) : Build Unit :=
  modify fun b => { b with stack := b.stack.erase node }

def removeForm (node : Nat) : Build Unit :=
  modify fun b => { b with forms := b.forms.eraseP (formIs node) }

/-- Put a bound that forms do not cross. -/
def boundForms : Build Unit :=
  modify fun b => { b with forms := .bound :: b.forms }

def clearForms : Build Unit :=
  modify fun b => { b with forms := (b.forms.dropWhile (· != .bound)).drop 1 }

/-- Whether a form needs no reopening. -/
def isSettled (b : Builder) : Form → Bool
  | .bound => true
  | .element node _ => b.stack.contains node

/-- Open forms again, the oldest first; the result has them newest first. -/
def reopen : List Form → List Form → Build (List Form)
  | reopened, [] => return reopened
  | reopened, .bound :: rest => reopen (.bound :: reopened) rest
  | reopened, .element _ tag :: rest => do
    let node ← insertOpen tag
    reopen (.element node tag :: reopened) rest

/-- Open again the newest forms that go on and are not open. -/
def reopenForms : Build Unit := do
  let b ← get
  let missing := b.forms.takeWhile (!isSettled b ·)
  let forms ← reopen (b.forms.drop missing.length) missing.reverse
  modify fun b => { b with forms }

def sameForm (a b : Tag) : Bool :=
  a.label == b.label && a.attributes.length == b.attributes.length &&
    a.attributes.all b.attributes.contains

/-- Put a new element whose form goes on. Of four equal forms since the newest bound the oldest
ends. -/
def insertForm (tag : Tag) : Build Unit := do
  let same := (← get).recentForms.filter fun entry => sameForm tag entry.2
  if 3 ≤ same.length then
    if let some oldest := same.getLast? then removeForm oldest.1
  let node ← insertOpen tag
  modify fun b => { b with forms := .element node tag :: b.forms }

/-- Close the element with a label and those further in, unless a special one is nearer. -/
def closeOrdinary (label : String) : Build Unit := do
  let b ← get
  let outer := b.stack.dropWhile fun node =>
    !b.has (Name.isNamed label) node && !b.has (Name.isOneOf specialLabels) node
  match outer with
  | [] => return
  | node :: rest =>
    if b.has (Name.isNamed label) node then modify fun b => { b with stack := rest }

/-- A stretch of open elements being copied under a new form. -/
structure Copying where
  /-- The elements that stay open, the outermost first. -/
  kept : List Nat := []
  /-- The element that was moved last. -/
  last : Nat
  /-- The form behind which the new one is put, if it is not the old one's place. -/
  behind : Option Nat := none

/-- Copy open elements, the innermost first, each around the one before it. Only the first three are
copied, and only those whose form goes on; the others are closed. -/
def copyBetween (block : Nat) : Nat → Copying → List Nat → Build Copying
  | _, copying, [] => return copying
  | count, copying, node :: rest => do
    let b ← get
    match b.forms.find? (formIs node) with
    | some (.element _ tag) =>
      if 3 ≤ count then
        removeForm node
        copyBetween block (count + 1) copying rest
      else
        let copy ← makeElement { label := tag.label } tag.attributes
        modify fun b => { b with
          forms := b.forms.map fun form => if formIs node form then .element copy tag else form }
        changeDraft (·.append copy copying.last)
        copyBetween block (count + 1)
          { kept := copy :: copying.kept
            last := copy
            behind := if copying.last == block then some copy else copying.behind }
          rest
    | _ => copyBetween block (count + 1) copying rest

/-- The forms with a new one in the place of an old one. -/
def replaceForm (old : Nat) (new : Form) (forms : List Form) : List Form :=
  forms.map fun form => if formIs old form then new else form

/-- The forms, newest first, with a new one right after another and without the old one. -/
def moveForm (old behind : Nat) (new : Form) (forms : List Form) : List Form :=
  (forms.flatMap fun form => if formIs behind form then [new, form] else [form]).eraseP (formIs old)

/-- Move the contents of a block that stands in a form into a copy of the form in the block. -/
def reform (node block : Nat) (tag : Tag) (above between below : List Nat) : Build Unit := do
  let copying ← copyBetween block 0 { last := block } between
  changeDraft (·.detach copying.last)
  putNode ((← get).spotIn (below.head?.getD 0)) copying.last
  let copy ← makeElement { label := tag.label } tag.attributes
  changeDraft fun draft => (draft.moveChildren block copy).append block copy
  let new := Form.element copy tag
  modify fun b => { b with
    forms := match copying.behind with
      | none => replaceForm node new b.forms
      | some behind => moveForm node behind new b.forms
    stack := above ++ copy :: block :: (copying.kept.reverse ++ below) }

/-- Close a form that others overlap, at most `rounds` times. -/
def closeFormRounds (label : String) : Nat → Build Unit
  | 0 => return
  | rounds + 1 => do
    let b ← get
    match b.recentForms.find? (·.2.label == label) with
    | none => closeOrdinary label
    | some (node, tag) =>
      if !b.stack.contains node then removeForm node
      else if !b.inScope Name.bounds (· == node) then return
      else
        let inner := (b.stack.takeWhile (· != node)).reverse
        let below := (b.stack.dropWhile (· != node)).drop 1
        let between := inner.takeWhile (!b.has (Name.isOneOf specialLabels) ·)
        match inner.drop between.length with
        | [] =>
          modify fun b => { b with stack := below }
          removeForm node
        | block :: above =>
          reform node block tag above.reverse between.reverse below
          closeFormRounds label rounds

/-- Close a form. Blocks that stand in it and go on take it over. -/
def closeForm (label : String) : Build Unit := do
  let b ← get
  if b.currentIs label && !b.stack.head?.any b.hasForm then pop
  else closeFormRounds label 8

def readRaw (kind : RawKind) (label : String) : Build Unit :=
  modify fun b => { b with returnMode := b.mode, mode := .text, reading := .raw kind label }

def insertRaw (kind : RawKind) (tag : Tag) : Build Unit := do
  let _ ← insertOpen tag
  readRaw kind tag.label

end Build

end PluginRecovery.Html
