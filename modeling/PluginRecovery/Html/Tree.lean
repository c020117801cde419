/-!
Pages as trees of nodes. An element carries the number under which it was made, which need not
follow the order of the tree: an element that is moved to an earlier place keeps its number.
-/

set_option autoImplicit false
set_option relaxedAutoImplicit false

namespace PluginRecovery.Html

/-- The vocabulary that the name of an element belongs to. -/
inductive Space
  | html
  | svg
  | mathMl
  deriving DecidableEq, Repr

structure Name where
  space : Space := .html
  label : String
  deriving DecidableEq, Repr

/-- An attribute; `space` is empty for all but the few that belong to a vocabulary of their own. -/
structure Attribute where
  space : String := ""
  label : String
  value : String
  deriving DecidableEq, Repr

/-- A node of a page. What a template holds is no child of it but stands below a node of its own. -/
inductive Node
  | text (content : String)
  | comment
  | element (number : Nat) (name : Name) (attributes : List Attribute) (children : List Node)
  | held (children : List Node)

/-- A page: what stands in it, and the elements that were cut off from it while it was read. -/
structure Document where
  nodes : List Node
  cut : List Node := []

/-- An element with the nodes beside it, those before it nearest first. -/
structure Level where
  number : Nat
  name : Name
  attributes : List Attribute
  children : List Node
  before : List Node
  after : List Node

/-- An element in its place: with the elements around it, nearest first. The outermost is the root
of the page when `rooted`, else it stands in a template or was cut off. -/
structure Place where
  level : Level
  above : List Level
  rooted : Bool

namespace Node

mutual

/-- The texts at and below a node, in order. -/
def texts : Node → List String
  | .text content => [content]
  | .comment => []
  | .element _ _ _ children => textsOf children
  | .held children => textsOf children

/-- The texts at and below nodes, in order. -/
def textsOf : List Node → List String
  | [] => []
  | node :: rest => node.texts ++ textsOf rest

end

mutual

/-- The elements at and below a node, in order. -/
def places (above : List Level) (rooted : Bool) (before after : List Node) : Node → List Place
  | .text _ => []
  | .comment => []
  | .element number name attributes children =>
    let level := { number, name, attributes, children, before, after }
    { level, above, rooted } :: placesOf (level :: above) rooted [] children
  | .held children => placesOf [] false [] children

/-- The elements at and below nodes that stand side by side, in order. -/
def placesOf (above : List Level) (rooted : Bool) (before : List Node) : List Node → List Place
  | [] => []
  | node :: rest =>
    node.places above rooted before rest ++ placesOf above rooted (node :: before) rest

end

end Node

/-- The elements below an element that was cut off; it is not among them. -/
def cutPlaces (node : Node) : List Place :=
  (node.places [] false [] []).drop 1

/-- Put an element before the first one made later. -/
def insertByNumber (place : Place) : List Place → List Place
  | [] => [place]
  | other :: rest =>
    if place.level.number ≤ other.level.number then place :: other :: rest
    else other :: insertByNumber place rest

/-- The elements of a page, in the order in which they were made. -/
def Document.places (document : Document) : List Place :=
  (Node.placesOf [] true [] document.nodes ++ document.cut.flatMap cutPlaces).foldr
    insertByNumber []

namespace Place

def number (place : Place) : Nat := place.level.number

/-- The value of an attribute without a vocabulary of its own. -/
def attribute? (place : Place) (label : String) : Option String :=
  (place.level.attributes.find? fun a => a.space.isEmpty && a.label == label).map (·.value)

def parent? (place : Place) : Option Place :=
  match place.above with
  | [] => none
  | level :: above => some { level, above, rooted := place.rooted }

def below (place : Place) : List Place :=
  Node.placesOf (place.level :: place.above) place.rooted [] place.level.children

/-- The texts in an element, in order. -/
def texts (place : Place) : List String :=
  Node.textsOf place.level.children

end Place

end PluginRecovery.Html
