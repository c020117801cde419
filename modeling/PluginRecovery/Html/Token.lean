import PluginRecovery.Html.Tree
import PluginRecovery.Text.Bytes

/-!
What a page's text is made of: tags, comments, and runs of characters, of which blank ones and
others are told apart because they mean different things where no text belongs.
-/

set_option autoImplicit false
set_option relaxedAutoImplicit false

namespace PluginRecovery.Html

open PluginRecovery.Text

/-- What opens an element. -/
structure Tag where
  label : String
  attributes : List Attribute := []
  selfClosing : Bool := false
  deriving DecidableEq, Repr

def Tag.attribute? (tag : Tag) (label : String) : Option String :=
  (tag.attributes.find? (·.label == label)).map (·.value)

/-- A part of a page's text. -/
inductive Token
  /-- A document type; `old` when it asks for the manners of old pages. -/
  | doctype (old : Bool)
  | opening (tag : Tag)
  | closing (label : String)
  | comment
  /-- A run of blanks, which is not empty. -/
  | blanks (text : List Char)
  /-- A run of characters that are not blank, which is not empty. -/
  | words (text : List Char)
  /-- The character with code zero. -/
  | zero
  /-- The end of the page. -/
  | finish
  deriving DecidableEq, Repr

/-- How the text of an element that holds no markup is read. -/
inductive RawKind
  /-- Character references count. -/
  | decoded
  /-- All characters stand for themselves. -/
  | verbatim
  /-- As before, and the element can be named in comments in it. -/
  | script
  deriving DecidableEq, Repr

/-- How the text that follows is to be read. -/
inductive Reading
  | markup
  | raw (kind : RawKind) (label : String)
  /-- All that is left is text. -/
  | rest
  deriving DecidableEq, Repr

/-- The blanks of markup. -/
def isBlankMark (c : Char) : Bool :=
  c == ' ' || c == '\t' || c == '\n' || c == '\x0c' || c == '\r'

/-- Stands in for a character with code zero. -/
def visible (c : Char) : Char :=
  if c == '\x00' then replacement else c

def labelText (name : List Char) : String :=
  String.ofList (name.map fun c => visible c.toLower)

/-- Whether a text begins with a word in lower case, whatever its own case. -/
def startsWithWord (word text : List Char) : Bool :=
  (text.take word.length).map Char.toLower == word

/-- The runs of blank and other characters of a text. -/
def runs : List Char → List Token
  | [] => []
  | c :: rest =>
    match isBlankMark c, runs rest with
    | true, .blanks text :: more => .blanks (c :: text) :: more
    | true, more => .blanks [c] :: more
    | false, .words text :: more => .words (c :: text) :: more
    | false, more => .words [c] :: more

end PluginRecovery.Html
