import PluginRecovery.Html.Token

/-!
Document types. They matter for one thing: whether a page keeps the manners of old ones, in which a
table may stand inside a paragraph.
-/

set_option autoImplicit false
set_option relaxedAutoImplicit false

namespace PluginRecovery.Html

/-- The public names of document types whose pages have old manners. -/
def oldPublicNames : List String := [
  "-//w3o//dtd w3 html strict 3.0//en//", "-/w3c/dtd html 4.0 transitional/en", "html"]

/-- How the public names of other such document types begin. -/
def oldPublicStarts : List String := [
  "+//silmaril//dtd html pro v0r11 19970101//",
  "-//advasoft ltd//dtd html 3.0 aswedit + extensions//",
  "-//as//dtd html 3.0 aswedit + extensions//",
  "-//ietf//dtd html 2.0 level 1//", "-//ietf//dtd html 2.0 level 2//",
  "-//ietf//dtd html 2.0 strict level 1//", "-//ietf//dtd html 2.0 strict level 2//",
  "-//ietf//dtd html 2.0 strict//", "-//ietf//dtd html 2.0//", "-//ietf//dtd html 2.1e//",
  "-//ietf//dtd html 3.0//", "-//ietf//dtd html 3.2 final//", "-//ietf//dtd html 3.2//",
  "-//ietf//dtd html 3//", "-//ietf//dtd html level 0//", "-//ietf//dtd html level 1//",
  "-//ietf//dtd html level 2//", "-//ietf//dtd html level 3//",
  "-//ietf//dtd html strict level 0//", "-//ietf//dtd html strict level 1//",
  "-//ietf//dtd html strict level 2//", "-//ietf//dtd html strict level 3//",
  "-//ietf//dtd html strict//", "-//ietf//dtd html//",
  "-//metrius//dtd metrius presentational//",
  "-//microsoft//dtd internet explorer 2.0 html strict//",
  "-//microsoft//dtd internet explorer 2.0 html//",
  "-//microsoft//dtd internet explorer 2.0 tables//",
  "-//microsoft//dtd internet explorer 3.0 html strict//",
  "-//microsoft//dtd internet explorer 3.0 html//",
  "-//microsoft//dtd internet explorer 3.0 tables//",
  "-//netscape comm. corp.//dtd html//", "-//netscape comm. corp.//dtd strict html//",
  "-//o'reilly and associates//dtd html 2.0//",
  "-//o'reilly and associates//dtd html extended 1.0//",
  "-//o'reilly and associates//dtd html extended relaxed 1.0//",
  "-//softquad software//dtd hotmetal pro 6.0::19990601::extensions to html 4.0//",
  "-//softquad//dtd hotmetal pro 4.0::19971010::extensions to html 4.0//",
  "-//spyglass//dtd html 2.0 extended//", "-//sq//dtd html 2.0 hotmetal + extensions//",
  "-//sun microsystems corp.//dtd hotjava html//",
  "-//sun microsystems corp.//dtd hotjava strict html//",
  "-//w3c//dtd html 3 1995-03-24//", "-//w3c//dtd html 3.2 draft//",
  "-//w3c//dtd html 3.2 final//", "-//w3c//dtd html 3.2//", "-//w3c//dtd html 3.2s draft//",
  "-//w3c//dtd html 4.0 frameset//", "-//w3c//dtd html 4.0 transitional//",
  "-//w3c//dtd html experimental 19960712//", "-//w3c//dtd html experimental 970421//",
  "-//w3c//dtd w3 html//", "-//w3o//dtd w3 html 3.0//", "-//webtechs//dtd mozilla html 2.0//",
  "-//webtechs//dtd mozilla html//"]

/-- How the public names begin whose pages have old manners without a system name. -/
def bareOldStarts : List String := [
  "-//w3c//dtd html 4.01 frameset//", "-//w3c//dtd html 4.01 transitional//"]

/-- The system name that old pages have: the address of a document type. -/
def oldSystemName : String :=
  "/".intercalate
    ["http:", "", "www.ibm.com", "data", "dtd", "v11", "ibmxhtml1-transitional.dtd"]

structure Doctype where
  name : List Char := []
  publicName : Option (List Char) := none
  systemName : Option (List Char) := none
  broken : Bool := false

def Doctype.isOld (d : Doctype) : Bool :=
  let lowered (text : List Char) : String := labelText text
  let begins (starts : List String) (text : String) : Bool := starts.any (·.isPrefixOf text)
  d.broken || lowered d.name != "html" ||
    d.publicName.any (fun text => oldPublicNames.contains (lowered text)) ||
    d.systemName.any (fun text => lowered text == oldSystemName) ||
    d.publicName.any (fun text => begins oldPublicStarts (lowered text)) ||
    (d.systemName.isNone && d.publicName.any fun text => begins bareOldStarts (lowered text))

/-- A quoted name of a document type: it, whether its quote is closed, and the text after it. A
bracket ends the document type in a name too. -/
def doctypeQuoted (quote : Char) (text : List Char) : List Char × Bool × List Char :=
  let inName (c : Char) : Bool := c != quote && c != '>'
  match text.dropWhile inName with
  | c :: rest => (text.takeWhile inName, c == quote, if c == quote then rest else c :: rest)
  | [] => (text, false, [])

/-- Read the system name of a document type, which may be missing when `optional`. -/
def withSystemName (d : Doctype) (optional : Bool) (text : List Char) : Doctype :=
  let quoted (quote : Char) (rest : List Char) : Doctype :=
    let (name, closed, after) := doctypeQuoted quote rest
    { d with
      systemName := some name
      broken := !closed || (after.dropWhile isBlankMark).isEmpty }
  match text.dropWhile isBlankMark with
  | '"' :: rest => quoted '"' rest
  | '\'' :: rest => quoted '\'' rest
  | '>' :: _ => { d with broken := !optional }
  | _ => { d with broken := true }

/-- Read the public name of a document type and what follows it. -/
def withPublicName (d : Doctype) (text : List Char) : Doctype :=
  let quoted (quote : Char) (rest : List Char) : Doctype :=
    let (name, closed, after) := doctypeQuoted quote rest
    let named := { d with publicName := some name }
    if closed then withSystemName named true after else { named with broken := true }
  match text.dropWhile isBlankMark with
  | '"' :: rest => quoted '"' rest
  | '\'' :: rest => quoted '\'' rest
  | _ => { d with broken := true }

/-- Read a document type from behind its keyword. -/
def doctypeOf (text : List Char) : Doctype :=
  let inName (c : Char) : Bool := !isBlankMark c && c != '>'
  let start := text.dropWhile isBlankMark
  let d : Doctype := { name := start.takeWhile inName }
  let rest := (start.dropWhile inName).dropWhile isBlankMark
  match rest with
  | '>' :: _ => d
  | _ =>
    if startsWithWord "public".toList rest then withPublicName d (rest.drop 6)
    else if startsWithWord "system".toList rest then withSystemName d false (rest.drop 6)
    else { d with broken := true }

end PluginRecovery.Html
