import PluginRecovery.Html.Lexer
import PluginRecovery.Html.Rules.Outer

/-!
Reading a page. Every text is a page: what is missing is supplied, and what cannot stand where it
does is moved or left out.
-/

set_option autoImplicit false
set_option relaxedAutoImplicit false

namespace PluginRecovery.Html

/-- Treat a token by the rules of a mode, or by those that hold where it stands, until a rule is
done with it. -/
def dispatch : Nat → Option Mode → Token → Build Unit
  | 0, _, _ => return
  | fuel + 1, forced, token => do
    let b ← get
    let outcome ← match forced with
      | some mode => Rules.ofMode mode token
      | none => if Rules.isForeign b token then Rules.inForeign token else Rules.ofMode b.mode token
    match outcome with
    | .done => return
    | .again mode =>
      Build.goTo mode
      dispatch fuel none token
    | .by mode => dispatch fuel (some mode) token

/-- A token without the line break that begins it, if it does. -/
def withoutBreak : Token → Token
  | .blanks ('\n' :: rest) => .blanks rest
  | token => token

/-- Take a token. A document type counts only before anything else. Each open element and template
sends a token on a few times at most. -/
def take (token : Token) : Build Unit := do
  let b ← get
  set { b with skipsBreak := false }
  match if b.skipsBreak then withoutBreak token else token with
  | .blanks [] => return
  | .doctype old => if b.mode == .initial then dispatch 1 none (.doctype old)
  | token => dispatch (8 * (b.stack.length + b.templateModes.length) + 32) none token

def takeAll (tokens : List Token) : Build Unit :=
  tokens.forM take

/-- Whether the innermost open element is one of foreign markup. -/
def inForeignMarkup (b : Builder) : Bool :=
  b.currentHas (·.space != .html)

/-- Read a text. Elements without markup are read in a step of their own, after their tags. -/
def readText : Nat → List Char → Build Unit
  | 0, _ => return
  | fuel + 1, text => do
    let b ← get
    match b.reading, text with
    | .rest, _ => takeAll (lexRest text)
    | .raw kind label, _ =>
      set { b with reading := .markup }
      let (tokens, rest) := lexRaw kind label.toList text
      takeAll tokens
      readText fuel rest
    | .markup, [] => return
    | .markup, _ =>
      let (tokens, rest) := lexNext (inForeignMarkup b) text
      takeAll tokens
      readText fuel rest

def buildPage (text : List Char) : Build Unit := do
  let whole := pageText text
  readText (2 * whole.length + 2) whole
  take .finish

/-- The page that a text is. -/
def Document.ofText (text : String) : Document :=
  ((buildPage text.toList).run {}).2.draft.document

end PluginRecovery.Html
