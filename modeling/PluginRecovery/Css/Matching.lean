import PluginRecovery.Css.Selector
import PluginRecovery.Html.Tree
import PluginRecovery.Text.Blank

/-!
Which elements a selector means. An element in a template has no elements around the template
above it.
-/

set_option autoImplicit false
set_option relaxedAutoImplicit false

namespace PluginRecovery.Css

open PluginRecovery.Html

def nodeOf (level : Level) : Node :=
  .element level.number level.name level.attributes level.children

/-- The elements before an element beside it, nearest first. -/
def siblingsBeforeFrom (above : List Level) (rooted : Bool) (after : List Node) :
    List Node → List Place
  | [] => []
  | node :: before =>
    let further := siblingsBeforeFrom above rooted (node :: after) before
    match node with
    | .element number name attributes children =>
      { level := { number, name, attributes, children, before, after }, above, rooted } :: further
    | _ => further

/-- The elements after an element beside it, nearest first. -/
def siblingsAfterFrom (above : List Level) (rooted : Bool) (before : List Node) :
    List Node → List Place
  | [] => []
  | node :: after =>
    let further := siblingsAfterFrom above rooted (node :: before) after
    match node with
    | .element number name attributes children =>
      { level := { number, name, attributes, children, before, after }, above, rooted } :: further
    | _ => further

/-- The elements before an element beside it, nearest first. -/
def siblingsBefore (place : Place) : List Place :=
  siblingsBeforeFrom place.above place.rooted (nodeOf place.level :: place.level.after)
    place.level.before

/-- The elements after an element beside it, nearest first. -/
def siblingsAfter (place : Place) : List Place :=
  siblingsAfterFrom place.above place.rooted (nodeOf place.level :: place.level.before)
    place.level.after

/-- The elements around those given, nearest first. -/
def ancestorsFrom (rooted : Bool) : List Level → List Place
  | [] => []
  | level :: above => { level, above, rooted } :: ancestorsFrom rooted above

/-- The elements around an element, nearest first. -/
def ancestors (place : Place) : List Place :=
  ancestorsFrom place.rooted place.above

/-- A text as letters without case, as far as they are within ASCII. -/
def caseless (text : List Char) : List Char :=
  text.map Char.toLower

def standsIn (part : List Char) : List Char → Bool
  | [] => part.isEmpty
  | c :: rest => part.isPrefixOf (c :: rest) || standsIn part rest

/-- Whether the value of an attribute stands in a relation to a text. No value starts with, ends
with or contains the empty text. -/
def Comparison.holds (comparison : Comparison) (value text : List Char) : Bool :=
  let isBlank (c : Char) : Bool := c == ' ' || c == '\t' || c == '\n' || c == '\r' || c == '\x0c'
  match comparison with
  | .equals => value == text
  | .includes => !text.isEmpty && (value.splitOnP isBlank).contains text
  | .dashed => value == text || (text ++ ['-']).isPrefixOf value
  | .starts => !text.isEmpty && text.isPrefixOf value
  | .ends => !text.isEmpty && text.isSuffixOf value
  | .contains => !text.isEmpty && standsIn text value

/-- Whether an element belongs to the page's own vocabulary. -/
def isOfPage (place : Place) : Bool :=
  place.level.name.space == .html

/-- A label as it is looked for on an element: the case of letters counts only in foreign
markup. -/
def labelFor (place : Place) (label : String) : String :=
  if isOfPage place then label.map Char.toLower else label

def AttributeTest.holds (test : AttributeTest) (place : Place) : Bool :=
  place.level.attributes.any fun a =>
    (test.anySpace || a.space.isEmpty) && a.label == labelFor place test.label &&
      match test.value with
      | none => true
      | some (comparison, text, rule) =>
        if rule == .ignored || (rule == .ignoredInPage && isOfPage place) then
          comparison.holds (caseless a.value.toList) (caseless text.toList)
        else comparison.holds a.value.toList text.toList

/-- The value of an attribute, whatever its vocabulary. -/
def labelled? (place : Place) (label : String) : Option String :=
  (place.level.attributes.find? (·.label == label)).map (·.value)

/-- Whether a position is in a sequence. -/
def Position.allows (position : Position) (index : Int) : Bool :=
  let distance := index - position.offset
  if position.step == 0 then distance == 0
  else distance % position.step == 0 && 0 ≤ distance * position.step

def Position.holds (position : Position) (place : Place) : Bool :=
  let beside := if position.fromEnd then siblingsAfter place else siblingsBefore place
  let counted := if position.sameName then
      beside.filter (·.level.name == place.level.name) else beside
  position.allows (counted.length + 1)

/-- Whether an element holds no element and no text. -/
def isEmpty (place : Place) : Bool :=
  place.level.children.all fun node =>
    match node with
    | .element .. | .text _ => false
    | .comment | .held _ => true

def isRoot (place : Place) : Bool :=
  place.rooted && place.above.isEmpty

/-- What a search looks from: the element it is in, and that of a relative selector. -/
structure Search where
  scope : Option Nat := none
  anchor : Option Nat := none

/-- The elements that a relative selector can mean. -/
def related (place : Place) : List Place :=
  place.below ++ (siblingsAfter place).flatMap fun other => other :: other.below

/-- The elements that stand in a relation to an element on their right. -/
def Combinator.lefts (combinator : Combinator) (place : Place) : List Place :=
  match combinator with
  | .ancestor => ancestors place
  | .parent => (ancestors place).take 1
  | .previous => (siblingsBefore place).take 1
  | .earlier => siblingsBefore place

mutual

/-- Whether an element is as a part of a selector asks. -/
def Simple.holds (search : Search) (place : Place) : Simple → Bool
  | .label text => place.level.name.label == labelFor place text
  | .anything => true
  | .noSpace => false
  | .id text => labelled? place "id" == some text
  | .className text =>
    place.level.attributes.any fun a =>
      a.label == "class" && (Text.words a.value.toList).contains text.toList
  | .hasAttribute test => test.holds place
  | .root => isRoot place
  | .empty => isEmpty place
  | .scope =>
    match search.scope with
    | some number => place.number == number
    | none => isRoot place
  | .position position => position.holds place
  | .anchor => search.anchor == some place.number
  | .never => false
  | .notAny options => !anyHolds search place options
  | .isAny options => anyHolds search place options
  | .hasAny options =>
    anyRelated { search with anchor := some place.number } (related place) options

def allHold (search : Search) (place : Place) : List Simple → Bool
  | [] => true
  | part :: rest => part.holds search place && allHold search place rest

def Selector.holds (search : Search) (place : Place) : Selector → Bool
  | .compound parts => allHold search place parts
  | .joined parts combinator left =>
    allHold search place parts &&
      (combinator.lefts place).any fun other => left.holds search other

def anyHolds (search : Search) (place : Place) : List Selector → Bool
  | [] => false
  | selector :: rest => selector.holds search place || anyHolds search place rest

/-- Whether one of several elements is meant by one of several selectors. -/
def anyRelated (search : Search) (places : List Place) : List Selector → Bool
  | [] => false
  | selector :: rest =>
    (places.any fun place => selector.holds search place) || anyRelated search places rest

end

/-- The elements of a page that selectors mean, in the order in which they were made. -/
def selectIn (document : Document) (selectors : List Selector) : List Place :=
  document.places.filter fun place => anyHolds {} place selectors

/-- The elements below an element that selectors mean, in order. -/
def selectBelow (place : Place) (selectors : List Selector) : List Place :=
  place.below.filter fun other => anyHolds { scope := some place.number } other selectors

end PluginRecovery.Css
