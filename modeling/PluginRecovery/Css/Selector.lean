/-!
Selectors: which elements of a page are meant. A compound says what holds of one element; compounds
are joined by what the elements they hold of are to each other.
-/

set_option autoImplicit false
set_option relaxedAutoImplicit false

namespace PluginRecovery.Css

/-- What the element on the left is to the one on the right. -/
inductive Combinator
  | ancestor
  | parent
  | previous
  | earlier
  deriving DecidableEq, Repr

/-- How the value of an attribute is compared. -/
inductive Comparison
  | equals
  /-- One of its words is the text. -/
  | includes
  /-- It is the text or goes on with a hyphen after it. -/
  | dashed
  | starts
  | ends
  | contains
  deriving DecidableEq, Repr

/-- Whether the case of letters counts in the value of an attribute. -/
inductive CaseRule
  | counts
  | ignored
  /-- Ignored on elements of a page, and counted in foreign markup. -/
  | ignoredInPage
  deriving DecidableEq, Repr

/-- What is asked of an attribute. -/
structure AttributeTest where
  /-- Attributes with a vocabulary of their own count too. -/
  anySpace : Bool
  label : String
  /-- The value asked for, if any. -/
  value : Option (Comparison × String × CaseRule)
  deriving DecidableEq, Repr

/-- Which of its siblings an element is: counted from the end or the start, among all or among those
of its own name, the position is `step` times a number plus `offset`. -/
structure Position where
  fromEnd : Bool
  sameName : Bool
  step : Int
  offset : Int
  deriving DecidableEq, Repr

mutual

/-- What a selector asks of one element. -/
inductive Simple
  | label (text : String)
  | anything
  /-- The element's name belongs to no vocabulary. -/
  | noSpace
  | id (text : String)
  | className (text : String)
  | hasAttribute (test : AttributeTest)
  | root
  | empty
  /-- The element that the search is in; the root when it is in a page. -/
  | scope
  | position (position : Position)
  /-- The element from which a relative selector looks. -/
  | anchor
  | never
  | notAny (options : List Selector)
  | isAny (options : List Selector)
  | hasAny (options : List Selector)

/-- What a selector asks of an element and those it is joined to, the rightmost compound first. -/
inductive Selector
  | compound (parts : List Simple)
  | joined (parts : List Simple) (combinator : Combinator) (left : Selector)

end

def Selector.join (left : Option (Selector × Combinator)) (parts : List Simple) : Selector :=
  match left with
  | none => .compound parts
  | some (selector, combinator) => .joined parts combinator selector

end PluginRecovery.Css
