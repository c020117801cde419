import PluginRecovery.Css.Component
import PluginRecovery.Css.Selector

/-!
Reading selectors. Pseudo-elements and conditions that only a person using a page can bring about
are no selectors. Among the options of `:is` and `:where` one that is no selector matches nothing
and spoils nothing.
-/

set_option autoImplicit false
set_option relaxedAutoImplicit false

namespace PluginRecovery.Css

def lowered (text : String) : String :=
  text.map Char.toLower

/-- The vocabulary that a name is given. -/
inductive NameSpace
  | implied
  | empty
  | any
  deriving DecidableEq, Repr

/-- What stands where a name may: an error, another thing, or a name, which is missing for an
asterisk. -/
inductive NameRead
  | wrong
  | absent
  | found (space : NameSpace) (label : Option String) (rest : List Component)

/-- Read the name after a bar. -/
def nameAfterBar (inAttribute : Bool) (space : NameSpace) : List Component → NameRead
  | .token (.name label) :: rest => .found space (some label) rest
  | .token (.sign '*') :: rest => if inAttribute then .wrong else .found space none rest
  | _ => .wrong

/-- Read the name of an element or an attribute. No vocabulary has a name of its own here. -/
def readQualified (inAttribute : Bool) : List Component → NameRead
  | .token (.name _) :: .token (.sign '|') :: _ => .wrong
  | .token (.name label) :: rest => .found .implied (some label) rest
  | .token (.sign '*') :: .token (.sign '|') :: rest => nameAfterBar inAttribute .any rest
  | .token (.sign '*') :: rest => if inAttribute then .wrong else .found .implied none rest
  | .token (.sign '|') :: rest => nameAfterBar inAttribute .empty rest
  | _ => .absent

/-- Attributes whose values name things that have no case. -/
def caselessAttributes : List String := [
  "accept", "accept-charset", "align", "alink", "axis", "bgcolor", "charset", "checked", "clear",
  "codetype", "color", "compact", "declare", "defer", "dir", "direction", "disabled", "enctype",
  "face", "frame", "hreflang", "http-equiv", "lang", "language", "link", "media", "method",
  "multiple", "nohref", "noresize", "noshade", "nowrap", "readonly", "rel", "rev", "rules", "scope",
  "scrolling", "selected", "shape", "target", "text", "type", "valign", "valuetype", "vlink"]

/-- The case rule for an attribute that is compared, from what follows the text. -/
def caseRule? (anySpace : Bool) (label : String) (rest : List Component) : Option CaseRule :=
  match dropBlanks rest with
  | [] =>
    some (if !anySpace && caselessAttributes.contains (lowered label) then .ignoredInPage
      else .counts)
  | .token (.name flag) :: after =>
    if !(dropBlanks after).isEmpty then none
    else
      match lowered flag with
      | "i" => some .ignored
      | "s" => some .counts
      | _ => none
  | _ => none

def comparison? : Token → Option Comparison
  | .sign '=' => some .equals
  | .comparison '~' => some .includes
  | .comparison '|' => some .dashed
  | .comparison '^' => some .starts
  | .comparison '$' => some .ends
  | .comparison '*' => some .contains
  | _ => none

def attributeTest? (body : List Component) : Option AttributeTest :=
  match readQualified true (dropBlanks body) with
  | .found space (some label) rest =>
    let anySpace := space == .any
    match dropBlanks rest with
    | [] => some { anySpace, label, value := none }
    | .token token :: rest' => do
      let comparison ← comparison? token
      match dropBlanks rest' with
      | .token (.name text) :: after | .token (.text text) :: after =>
        return {
          anySpace
          label
          value := some (comparison, text, ← caseRule? anySpace label after) }
      | _ => none
    | _ => none
  | _ => none

/-- The number in a unit such as `n-3`, with its sign. -/
def afterN? (unit : String) : Option Int :=
  match (lowered unit).toList with
  | 'n' :: '-' :: d :: digits =>
    if (d :: digits).all Char.isDigit then
      some (bounded (-Int.ofNat ((d :: digits).foldl
        (fun value c => value * 10 + (c.toNat - '0'.toNat)) 0)))
    else none
  | _ => none

/-- The number without a sign that ends a position. -/
def plainOffset? (step sign : Int) (body : List Component) : Option (Int × Int) :=
  match dropBlanks body with
  | .token (.number (some offset) false) :: rest =>
    if (dropBlanks rest).isEmpty then some (step, sign * offset) else none
  | _ => none

/-- What follows `n` in a position. -/
def offset? (step : Int) (body : List Component) : Option (Int × Int) :=
  match dropBlanks body with
  | [] => some (step, 0)
  | .token (.sign '+') :: rest => plainOffset? step 1 rest
  | .token (.sign '-') :: rest => plainOffset? step (-1) rest
  | .token (.number (some offset) true) :: rest =>
    if (dropBlanks rest).isEmpty then some (step, offset) else none
  | _ => none

/-- Read a position whose step has been read, from the unit behind it. -/
def unitPosition? (step : Int) (unit : String) (rest : List Component) : Option (Int × Int) :=
  match lowered unit with
  | "n" => offset? step rest
  | "n-" => plainOffset? step (-1) rest
  | _ => (afterN? unit).bind fun offset =>
    if (dropBlanks rest).isEmpty then some (step, offset) else none

def wordPosition? (word : String) (rest : List Component) : Option (Int × Int) :=
  match lowered word with
  | "even" => if (dropBlanks rest).isEmpty then some (2, 0) else none
  | "odd" => if (dropBlanks rest).isEmpty then some (2, 1) else none
  | _ => unitPosition? 1 word rest

/-- Read a position: a step and an offset. -/
def stepOffset? (body : List Component) : Option (Int × Int) :=
  match dropBlanks body with
  | .token (.number (some offset) _) :: rest =>
    if (dropBlanks rest).isEmpty then some (0, offset) else none
  | .token (.dimension (some step) unit) :: rest => unitPosition? step unit rest
  | .token (.sign '+') :: .token (.name word) :: rest => wordPosition? word rest
  | .token (.name word) :: rest =>
    match word.toList with
    | '-' :: unit => unitPosition? (-1) (String.ofList unit) rest
    | _ => wordPosition? word rest
  | _ => none

def positionPart (fromEnd sameName : Bool) (step offset : Int) : Simple :=
  .position { fromEnd, sameName, step, offset }

/-- The conditions with a name only. -/
def plainCondition? (name : String) : Option (List Simple) :=
  let first := positionPart false false 0 1
  let last := positionPart true false 0 1
  let firstNamed := positionPart false true 0 1
  let lastNamed := positionPart true true 0 1
  match lowered name with
  | "first-child" => some [first]
  | "last-child" => some [last]
  | "only-child" => some [first, last]
  | "first-of-type" => some [firstNamed]
  | "last-of-type" => some [lastNamed]
  | "only-of-type" => some [firstNamed, lastNamed]
  | "root" => some [.root]
  | "empty" => some [.empty]
  | "scope" => some [.scope]
  | _ => none

/-- The conditions that give a position. -/
def positionKind? (name : String) : Option (Bool × Bool) :=
  match name with
  | "nth-child" => some (false, false)
  | "nth-last-child" => some (true, false)
  | "nth-of-type" => some (false, true)
  | "nth-last-of-type" => some (true, true)
  | _ => none

/-- Read the combinator between two compounds; none when there is none, with nothing read but
blanks. -/
def readCombinator (body : List Component) : Option Combinator × List Component :=
  match dropBlanks body with
  | .token (.sign '>') :: rest => (some .parent, rest)
  | .token (.sign '+') :: rest => (some .previous, rest)
  | .token (.sign '~') :: rest => (some .earlier, rest)
  | [] => (none, [])
  | c :: rest =>
    (if (body.head?.any Component.isBlank) then some .ancestor else none, c :: rest)

/-- Where a selector stands. -/
structure Setting where
  /-- In a condition that looks from an element, where no other may stand. -/
  relative : Bool := false
  deriving DecidableEq, Repr

/-- How the options of a condition are read. -/
inductive OptionRule
  | strict
  | lenient
  | relative
  deriving DecidableEq, Repr

mutual

/-- Read the condition with a name and an argument. -/
def condition? : Nat → Setting → String → List Component → Option Simple
  | 0, _, _, _ => none
  | depth + 1, setting, name, body =>
    match positionKind? (lowered name), lowered name with
    | some (fromEnd, sameName), _ =>
      (stepOffset? body).map fun (step, offset) => positionPart fromEnd sameName step offset
    | none, "not" => (options? depth setting .strict (splitAtCommas body)).map .notAny
    | none, "is" | none, "where" =>
      (options? depth setting .lenient (splitAtCommas body)).map .isAny
    | none, "has" =>
      if setting.relative then none
      else (options? depth { relative := true } .relative (splitAtCommas body)).map .hasAny
    | none, "host" =>
      match selector? depth setting none body with
      | some (.compound _) => some .never
      | _ => none
    | none, _ => none

def options? : Nat → Setting → OptionRule → List (List Component) → Option (List Selector)
  | 0, _, _, _ => none
  | _ + 1, _, _, [] => some []
  | depth + 1, setting, rule, body :: rest => do
    let left := if rule == .relative then
        let (combinator, _) := readCombinator (dropBlanks body)
        some (Selector.compound [.anchor], combinator.getD .ancestor)
      else none
    let start := if rule == .relative then (readCombinator (dropBlanks body)).2 else body
    let first ← match selector? depth setting left start with
      | some selector => some selector
      | none =>
        if rule == .lenient && !Component.anyBroken body then some (.compound [.never]) else none
    return first :: (← options? depth setting rule rest)

/-- Read a selector, the compounds on the left being read. -/
def selector? : Nat → Setting → Option (Selector × Combinator) → List Component → Option Selector
  | 0, _, _, _ => none
  | depth + 1, setting, left, body => do
    let (parts, rest) ← compound? depth setting (dropBlanks body)
    let selector := Selector.join left parts
    if (dropBlanks rest).isEmpty then some selector
    else
      match readCombinator rest with
      | (some combinator, rest') => selector? depth setting (some (selector, combinator)) rest'
      | (none, _) => none

/-- Read a compound, which is not empty. -/
def compound? : Nat → Setting → List Component → Option (List Simple × List Component)
  | 0, _, _ => none
  | depth + 1, setting, body =>
    match readQualified false body with
    | .wrong => none
    | .absent => do
      let (parts, rest) ← parts? depth setting body
      if parts.isEmpty then none else some (parts, rest)
    | .found space label rest => do
      let (parts, rest') ← parts? depth setting rest
      let named := match label with
        | some label => Simple.label label
        | none => .anything
      let all := named :: parts
      return (if space == .empty then .noSpace :: all else all, rest')

/-- Read the parts of a compound after its name. -/
def parts? : Nat → Setting → List Component → Option (List Simple × List Component)
  | 0, _, _ => none
  | depth + 1, setting, body =>
    let more (parts : List Simple) (rest : List Component) :
        Option (List Simple × List Component) := do
      let (following, rest') ← parts? depth setting rest
      return (parts ++ following, rest')
    match body with
    | .token (.hash label true) :: rest => more [.id label] rest
    | .token (.sign '.') :: .token (.name label) :: rest => more [.className label] rest
    | .token (.sign '.') :: _ => none
    | .block .bracket inner :: rest => do more [.hasAttribute (← attributeTest? inner)] rest
    | .token (.sign ':') :: .token (.name name) :: rest => do more (← plainCondition? name) rest
    | .token (.sign ':') :: .block (.function name) inner :: rest => do
      more [← condition? depth setting name inner] rest
    | .token (.sign ':') :: _ => none
    | rest => some ([], rest)

end

/-- The selectors that a text lists; none when one of them is no selector. Each step of the reader
reads a component or goes into a block, so the length of the text bounds their number. -/
def Selector.list? (text : String) : Option (List Selector) :=
  options? (6 * text.length + 12) {} .strict (splitAtCommas (components text.toList))

end PluginRecovery.Css
