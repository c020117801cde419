import PluginRecovery.Html.Doctype
import PluginRecovery.Html.Reference

/-!
The tokens of a page. A tag that the end of the page cuts off is no tag and is left out. Elements
without markup in them are read as a whole, up to the tag that closes them.
-/

set_option autoImplicit false
set_option relaxedAutoImplicit false

namespace PluginRecovery.Html

open PluginRecovery.Text

/-- A text whose line breaks are all single line feeds. -/
def plainLines : List Char → List Char
  | '\r' :: '\n' :: rest => '\n' :: plainLines rest
  | '\r' :: rest => '\n' :: plainLines rest
  | c :: rest => c :: plainLines rest
  | [] => []

/-- The text of a page that counts: without a byte order mark and with plain line breaks. -/
def pageText : List Char → List Char
  | '\uFEFF' :: rest => plainLines rest
  | text => plainLines text

def endsName (c : Char) : Bool :=
  isBlankMark c || c == '/' || c == '>'

/-- A value between quotes, and the text after it; none when the quote is never closed. -/
def quotedValue? (quote : Char) (text : List Char) : Option (List Char × List Char) :=
  match text.dropWhile (· != quote) with
  | [] => none
  | _ :: rest => some (text.takeWhile (· != quote), rest)

/-- The value after an equals sign, and the text after it. -/
def attributeValue? (text : List Char) : Option (List Char × List Char) :=
  match text.dropWhile isBlankMark with
  | '"' :: rest => quotedValue? '"' rest
  | '\'' :: rest => quotedValue? '\'' rest
  | rest =>
    let inValue (c : Char) : Bool := !isBlankMark c && c != '>'
    some (rest.takeWhile inValue, rest.dropWhile inValue)

/-- Read an attribute whose name begins with `first`; an equals sign there belongs to the name. -/
def attributeFrom? (first : Char) (text : List Char) : Option (Attribute × List Char) :=
  let inName (c : Char) : Bool := !endsName c && c != '='
  let label := labelText (first :: text.takeWhile inName)
  let rest := text.dropWhile inName
  match rest.dropWhile isBlankMark with
  | '=' :: rest' => do
    let (value, rest'') ← attributeValue? rest'
    let decoded := (withReferences true value).map visible
    return ({ label, value := String.ofList decoded }, rest'')
  | _ => some ({ label, value := "" }, rest)

/-- Put an attribute behind others unless one of them has its name. -/
def addAttribute (attributes : List Attribute) (new : Attribute) : List Attribute :=
  if attributes.any (·.label == new.label) then attributes else attributes ++ [new]

/-- Read the attributes of a tag up to its end: whether the tag closes itself, and the text
after it. -/
def attributesFrom? : Nat → List Attribute → List Char →
    Option (List Attribute × Bool × List Char)
  | 0, _, _ => none
  | _ + 1, _, [] => none
  | fuel + 1, attributes, c :: rest =>
    if c == '>' then some (attributes, false, rest)
    else if isBlankMark c then attributesFrom? fuel attributes rest
    else if c == '/' then
      match rest with
      | '>' :: rest' => some (attributes, true, rest')
      | _ => attributesFrom? fuel attributes rest
    else do
      let (new, rest') ← attributeFrom? c rest
      attributesFrom? fuel (addAttribute attributes new) rest'

/-- Read a tag from its name on. -/
def tag? (text : List Char) : Option (Tag × List Char) := do
  let name := text.takeWhile (!endsName ·)
  let rest := text.drop name.length
  let (attributes, selfClosing, rest') ← attributesFrom? (rest.length + 1) [] rest
  return ({ label := labelText name, attributes, selfClosing }, rest')

def afterBracket (text : List Char) : List Char :=
  (text.dropWhile (· != '>')).drop 1

/-- The text after the sign that closes a comment. -/
def afterClosingSign : List Char → List Char
  | '-' :: '-' :: '>' :: rest | '-' :: '-' :: '!' :: '>' :: rest => rest
  | _ :: rest => afterClosingSign rest
  | [] => []

/-- The text after a comment, from behind its opening sign. -/
def afterComment : List Char → List Char
  | '>' :: rest | '-' :: '>' :: rest => rest
  | text => afterClosingSign text

/-- The parts before and after the sign that closes verbatim text in foreign markup. -/
def splitVerbatim : List Char → List Char × List Char
  | ']' :: ']' :: '>' :: rest => ([], rest)
  | c :: rest =>
    let (before, after) := splitVerbatim rest
    (c :: before, after)
  | [] => ([], [])

/-- The text after a document type, from behind its keyword. -/
def afterDoctype (text : List Char) : List Char :=
  afterBracket text

/-- Read what `<!` begins. Verbatim text is told from a comment only in foreign markup. -/
def declaration (foreignMarkup : Bool) (text : List Char) : List Token × List Char :=
  match text with
  | '-' :: '-' :: rest => ([.comment], afterComment rest)
  | _ =>
    if startsWithWord "doctype".toList text then
      ([.doctype (doctypeOf (text.drop 7)).isOld], afterDoctype (text.drop 7))
    else if foreignMarkup && "[CDATA[".toList.isPrefixOf text then
      let (content, rest) := splitVerbatim (text.drop 7)
      (runs content, rest)
    else ([.comment], afterBracket text)

def closingTag (text : List Char) : List Token × List Char :=
  match text with
  | [] => (runs ['<', '/'], [])
  | '>' :: rest => ([], rest)
  | c :: _ =>
    if c.isAlpha then
      match tag? text with
      | some (tag, rest) => ([.closing tag.label], rest)
      | none => ([], [])
    else ([.comment], afterBracket text)

def angle (foreignMarkup : Bool) (text : List Char) : List Token × List Char :=
  match text with
  | '!' :: rest => declaration foreignMarkup rest
  | '/' :: rest => closingTag rest
  | '?' :: _ => ([.comment], afterBracket text)
  | c :: _ =>
    if c.isAlpha then
      match tag? text with
      | some (tag, rest) => ([.opening tag], rest)
      | none => ([], [])
    else (runs ['<'], text)
  | [] => (runs ['<'], [])

/-- Whether a character stands for itself in markup. -/
def isOrdinary (c : Char) : Bool :=
  c != '<' && c != '&' && c != '\x00'

/-- Read the tokens at the front of a text: those up to the next mark, or those of the mark. -/
def lexNext (foreignMarkup : Bool) : List Char → List Token × List Char
  | [] => ([], [])
  | '<' :: rest => angle foreignMarkup rest
  | '&' :: rest =>
    match reference? false rest with
    | some (meaning, rest') => (runs meaning, rest')
    | none => (runs ['&'], rest)
  | '\x00' :: rest => ([.zero], rest)
  | text => (runs (text.takeWhile isOrdinary), text.dropWhile isOrdinary)

/-- Whether a text begins with the tag that closes an element: its name has to end there. -/
def closes (label text : List Char) : Bool :=
  match text with
  | '<' :: '/' :: rest =>
    startsWithWord label rest && ((rest.drop label.length).head?.any endsName)
  | _ => false

/-- The parts before and after the tag that closes an element without markup. -/
def splitClosing (label : List Char) : List Char → List Char × List Char
  | [] => ([], [])
  | c :: rest =>
    if closes label (c :: rest) then ([], c :: rest)
    else
      let (before, after) := splitClosing label rest
      (c :: before, after)

/-- Where the text of a script stands: outside comments, in one, or in a script named in one. In
comments the number of hyphens just read counts. -/
inductive ScriptPart
  | outside
  | comment (hyphens : Nat)
  | named (hyphens : Nat)
  deriving DecidableEq, Repr

/-- Whether a text begins with the word `script` that ends there. -/
def namesScript (text : List Char) : Bool :=
  startsWithWord "script".toList text && ((text.drop 6).head?.any endsName)

/-- The part after a character of a script, given the text after it. -/
def ScriptPart.step (part : ScriptPart) (c : Char) (rest : List Char) : ScriptPart :=
  match part with
  | .outside => if c == '<' && "!--".toList.isPrefixOf rest then .comment 0 else .outside
  | .comment hyphens =>
    if c == '-' then .comment (hyphens + 1)
    else if c == '>' && 2 ≤ hyphens then .outside
    else if c == '<' && namesScript rest then .named 0
    else .comment 0
  | .named hyphens =>
    if c == '-' then .named (hyphens + 1)
    else if c == '>' && 2 ≤ hyphens then .outside
    else if c == '<' && rest.head? == some '/' && namesScript (rest.drop 1) then .comment 0
    else .named 0

/-- The parts before and after the tag that closes a script. -/
def splitScript (part : ScriptPart) : List Char → List Char × List Char
  | [] => ([], [])
  | c :: rest =>
    let named := match part with
      | .named _ => true
      | _ => false
    if !named && closes "script".toList (c :: rest) then ([], c :: rest)
    else
      let (before, after) := splitScript (part.step c rest) rest
      (c :: before, after)

/-- Read an element without markup: its text, and the rest from the tag that closes it on. -/
def lexRaw (kind : RawKind) (label : List Char) (text : List Char) : List Token × List Char :=
  match kind with
  | .script =>
    let (content, rest) := splitScript .outside text
    (runs (content.map visible), rest)
  | .verbatim =>
    let (content, rest) := splitClosing label text
    (runs (content.map visible), rest)
  | .decoded =>
    let (content, rest) := splitClosing label text
    (runs (withReferences false (content.map visible)), rest)

def lexRest (text : List Char) : List Token :=
  runs (text.map visible)

end PluginRecovery.Html
