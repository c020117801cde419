import PluginRecovery.Url.Domain.Composition
import PluginRecovery.Url.Domain.Form
import PluginRecovery.Url.Domain.Trait

/-!
What the labels between the points of a host name keep to when they are not within ASCII.
-/

set_option autoImplicit false
set_option relaxedAutoImplicit false

namespace PluginRecovery.Domain

/-! ### Joiners -/

/-- The mark that takes the vowel from a letter. -/
def isVirama (c : Char) : Bool :=
  combiningClass c == 9

/-- What a character joins as, past those that others join through. -/
def joiningOf (text : List Char) : Joining :=
  match text.find? fun c => (traitOf c).joining != .transparent with
  | some c => (traitOf c).joining
  | none => .none

/-- Joiners stand after a virama; one that parts letters also stands between letters that would
join. -/
def joinersFit (before : List Char) : List Char → Bool
  | [] => true
  | c :: rest =>
    let afterVirama := before.head?.any isVirama
    let fits :=
      if c == '\u200D' then afterVirama
      else if c == '\u200C' then
        afterVirama ||
          ([Joining.left, .both].contains (joiningOf before) &&
            [Joining.right, .both].contains (joiningOf rest))
      else true
    fits && joinersFit (c :: before) rest

/-! ### Directions -/

/-- The direction at the end of a text, past marks. -/
def lastDirection (directions : List Direction) : Option Direction :=
  directions.reverse.find? (· != .mark)

/-- A label that runs one way only, numbers at its end included. -/
def runsOneWay (directions : List Direction) : Bool :=
  match directions.head? with
  | none => true
  | some .leftToRight =>
    directions.all [Direction.leftToRight, .number, .neutral, .mark].contains &&
      (lastDirection directions).any [Direction.leftToRight, .number].contains
  | some .rightToLeft =>
    directions.all [Direction.rightToLeft, .arabicNumber, .number, .neutral, .mark].contains &&
      (lastDirection directions).any [Direction.rightToLeft, .arabicNumber, .number].contains &&
      !(directions.contains .arabicNumber && directions.contains .number)
  | some _ => false

/-- If anything runs from right to left, every label runs one way. -/
def directionsFit (labels : List (List Char)) : Bool :=
  let directions := labels.map fun label => label.map fun c => (traitOf c).direction
  !(directions.any fun label => label.any [Direction.rightToLeft, .arabicNumber].contains) ||
    directions.all runsOneWay

/-! ### Labels -/

/-- A mark that a label in ASCII stands for another one. -/
def encodedMark : List Char :=
  "xn--".toList

/-- A label beyond ASCII has only characters that stand for themselves, in composed form, does not
begin with a mark, and its joiners fit. -/
def isLabel (label : List Char) : Bool :=
  label.any (128 ≤ ·.toNat) &&
    !encodedMark.isPrefixOf label &&
    label.all (fun c => formOf? c == some [c]) &&
    compose label == label &&
    !label.head?.any (fun c => (traitOf c).isMark) &&
    joinersFit [] label

end PluginRecovery.Domain
