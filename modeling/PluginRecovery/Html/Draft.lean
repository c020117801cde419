import PluginRecovery.Html.Tree

/-!
A page while it is read: nodes by number, each knowing the node it stands in. Nodes are made
without a place, and put, moved and cut off afterwards.
-/

set_option autoImplicit false
set_option relaxedAutoImplicit false

namespace PluginRecovery.Html

/-- What a node is. -/
inductive Content
  | page
  | text (content : String)
  | comment
  | element (name : Name) (attributes : List Attribute)
  | held
  deriving DecidableEq, Repr

/-- A node of a draft, with the nodes below it, the last first. -/
structure Cell where
  content : Content
  parent : Option Nat := none
  children : List Nat := []
  deriving DecidableEq, Repr

/-- The nodes of a page by number; the page itself is the first. -/
abbrev Draft := Array Cell

namespace Draft

/-- The node of a page with nothing in it. -/
def empty : Draft := #[{ content := .page }]

def isText (draft : Draft) (node : Nat) : Bool :=
  match draft[node]? with
  | some { content := .text _, .. } => true
  | _ => false

def name? (draft : Draft) (node : Nat) : Option Name :=
  match draft[node]? with
  | some { content := .element name _, .. } => some name
  | _ => none

def parent? (draft : Draft) (node : Nat) : Option Nat :=
  draft[node]?.bind (·.parent)

/-- The nodes below a node, the last first. -/
def children (draft : Draft) (node : Nat) : List Nat :=
  (draft[node]?.map (·.children)).getD []

def make (draft : Draft) (content : Content) : Draft × Nat :=
  (draft.push { content }, draft.size)

def detach (draft : Draft) (node : Nat) : Draft :=
  match draft.parent? node with
  | none => draft
  | some parent =>
    (draft.modify parent fun cell => { cell with children := cell.children.erase node }).modify node
      fun cell => { cell with parent := none }

def append (draft : Draft) (parent node : Nat) : Draft :=
  ((draft.detach node).modify parent fun cell =>
      { cell with children := node :: cell.children }).modify node
    fun cell => { cell with parent := some parent }

/-- The list with `node` put behind `sibling`. -/
def insertBehind (sibling node : Nat) : List Nat → List Nat
  | [] => []
  | other :: rest =>
    if other == sibling then other :: node :: rest else other :: insertBehind sibling node rest

/-- Put a node right before another, below the same node. -/
def insertBefore (draft : Draft) (parent sibling node : Nat) : Draft :=
  ((draft.detach node).modify parent fun cell =>
      { cell with children := insertBehind sibling node cell.children }).modify node
    fun cell => { cell with parent := some parent }

def extend (draft : Draft) (node : Nat) (more : String) : Draft :=
  draft.modify node fun cell =>
    match cell.content with
    | .text content => { cell with content := .text (content ++ more) }
    | _ => cell

/-- Put a text behind all nodes below `parent`: it goes on with a text that ends them. -/
def appendText (draft : Draft) (parent : Nat) (text : String) : Draft :=
  match (draft.children parent).head? with
  | some last =>
    if draft.isText last then draft.extend last text else fresh
  | none => fresh
where
  /-- The draft with a node of its own for the text. -/
  fresh : Draft :=
    let (made, node) := draft.make (.text text)
    made.append parent node

/-- Put a text right before a node below `parent`: it goes on with a text that stands there. -/
def insertTextBefore (draft : Draft) (parent sibling : Nat) (text : String) : Draft :=
  match ((draft.children parent).dropWhile (· != sibling)).drop 1 with
  | previous :: _ => if draft.isText previous then draft.extend previous text else fresh
  | [] => fresh
where
  /-- The draft with a node of its own for the text. -/
  fresh : Draft :=
    let (made, node) := draft.make (.text text)
    made.insertBefore parent sibling node

/-- Move all nodes below `source` behind those below `target`. -/
def moveChildren (draft : Draft) (source target : Nat) : Draft :=
  (draft.children source).reverse.foldl (fun moved child => moved.append target child) draft

/-- Give an element the attributes that it does not have yet. -/
def addAttributes (draft : Draft) (node : Nat) (more : List Attribute) : Draft :=
  draft.modify node fun cell =>
    match cell.content with
    | .element name attributes =>
      let missing := more.filter fun a =>
        !attributes.any fun b => b.space == a.space && b.label == a.label
      { cell with content := .element name (attributes ++ missing) }
    | _ => cell

/-- The tree at a node, at most `depth` levels of it. -/
def tree (draft : Draft) : Nat → Nat → Node
  | 0, _ => .comment
  | depth + 1, node =>
    let below := ((draft.children node).reverse).map (draft.tree depth)
    match draft[node]? with
    | some { content := .text content, .. } => .text content
    | some { content := .element name attributes, .. } => .element node name attributes below
    | some { content := .held, .. } | some { content := .page, .. } => .held below
    | some { content := .comment, .. } | none => .comment

/-- Whether a node is an element that stands nowhere. -/
def isCut (draft : Draft) (node : Nat) : Bool :=
  (draft.name? node).isSome && (draft.parent? node).isNone

/-- The page that a draft has become. No tree is deeper than there are nodes. -/
def document (draft : Draft) : Document :=
  { nodes := (draft.children 0).reverse.map (draft.tree draft.size)
    cut := ((List.range draft.size).filter draft.isCut).map (draft.tree draft.size) }

end Draft

end PluginRecovery.Html
