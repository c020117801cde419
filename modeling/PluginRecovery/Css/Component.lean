import PluginRecovery.Css.Token

/-!
Tokens with their blocks nested. A block that is still open at the end of a text ends there; a
closing sign that closes nothing stays as a token.
-/

set_option autoImplicit false
set_option relaxedAutoImplicit false

namespace PluginRecovery.Css

/-- A token, or a block with what it holds. -/
inductive Component
  | token (token : Token)
  | block (opener : Opener) (body : List Component)

/-- What closes a block. -/
def Opener.closer : Opener → Closer
  | .function _ | .parenthesis => .parenthesis
  | .bracket => .bracket
  | .brace => .brace

/-- A block that is open, with what it holds so far, the last first. -/
abbrev OpenBlock := Opener × List Component

def endBlocks : List OpenBlock → List Component → List Component
  | [], body => body.reverse
  | (opener, outer) :: rest, body => endBlocks rest (.block opener body.reverse :: outer)

/-- Nest tokens. `blocks` holds what precedes each open block in the one around it, the innermost
first, and `body` what the innermost holds so far. -/
def nestFrom : List OpenBlock → List Component → List Token → List Component
  | blocks, body, [] => endBlocks blocks body
  | blocks, body, token :: rest =>
    match token, blocks with
    | .opening opener, _ => nestFrom ((opener, body) :: blocks) [] rest
    | .closing closer, (opener, outer) :: more =>
      if opener.closer == closer then nestFrom more (.block opener body.reverse :: outer) rest
      else nestFrom blocks (.token token :: body) rest
    | _, _ => nestFrom blocks (.token token :: body) rest

def components (text : List Char) : List Component :=
  nestFrom [] [] (tokens text)

namespace Component

def isBlank : Component → Bool
  | .token .blank => true
  | _ => false

def isComma : Component → Bool
  | .token (.sign ',') => true
  | _ => false

mutual

/-- Whether a component is or holds a token that belongs nowhere. -/
def isBroken : Component → Bool
  | .token .broken => true
  | .token (.closing _) => true
  | .token _ => false
  | .block _ body => anyBroken body

/-- Whether a component among those given is or holds a token that belongs nowhere. -/
def anyBroken : List Component → Bool
  | [] => false
  | c :: rest => c.isBroken || anyBroken rest

end

end Component

def dropBlanks (body : List Component) : List Component :=
  body.dropWhile Component.isBlank

def splitAtCommas (body : List Component) : List (List Component) :=
  body.splitOnP Component.isComma

end PluginRecovery.Css
