import PluginRecovery.Text.Bytes

/-!
Removing comments from script text. String, template and regular expression literals are copied
verbatim, each comment leaves only its newlines. The scan works on bytes: all that it looks for is
ASCII.
-/

set_option autoImplicit false
set_option relaxedAutoImplicit false

namespace PluginRecovery.Script

open PluginRecovery.Text

/-- A single quote, a double quote or a backtick. -/
def isQuote (b : UInt8) : Bool :=
  b == '"'.toUInt8 || b == '\''.toUInt8 || b == 0x60

def isBackslash (b : UInt8) : Bool :=
  b == '\\'.toUInt8

/-- The ASCII white space that separates tokens: space, tab, newline, form feed, carriage return. -/
def isAsciiBlank (b : UInt8) : Bool :=
  b == 0x20 || b == 0x09 || b == 0x0A || b == 0x0C || b == 0x0D

/-- The bytes after which a slash begins a regular expression. -/
def regexPreceders : List UInt8 :=
  bytes ['(', '[', '{', '=', ':', ';', ',', '!', '&', '|', '^', '~', '?']

/-- Whether a slash begins a regular expression after the given output, newest byte first: at the
start, after one of `regexPreceders`, or after a word that ends in `return`. -/
def inRegexContext (emitted : List UInt8) : Bool :=
  match emitted.dropWhile isAsciiBlank with
  | [] => true
  | last :: before =>
    regexPreceders.contains last || (bytes "return".toList).reverse.isPrefixOf (last :: before)

/-- What the scan is inside of. -/
inductive Mode where
  | code
  | quoted (quote : UInt8)
  | lineComment
  | blockComment
  | regex (inClass : Bool)
  deriving DecidableEq

/-- Continue in the given mode; `emitted` is the output so far, newest byte first. A block comment
needs two bytes to go on, so that the last byte of the text is always read as code. -/
def stripFrom : Mode → List UInt8 → List UInt8 → List UInt8
  | _, emitted, [] => emitted.reverse
  | .code, emitted, b :: rest =>
    if isQuote b then stripFrom (.quoted b) (b :: emitted) rest
    else if b == '/'.toUInt8 then
      match rest with
      | [] => stripFrom .code (b :: emitted) []
      | next :: rest' =>
        if next == '/'.toUInt8 then stripFrom .lineComment emitted (next :: rest')
        else if next == '*'.toUInt8 then stripFrom .blockComment emitted rest'
        else if inRegexContext emitted then stripFrom (.regex false) (b :: emitted) (next :: rest')
        else stripFrom .code (b :: emitted) (next :: rest')
    else stripFrom .code (b :: emitted) rest
  | .quoted quote, emitted, b :: rest =>
    if isBackslash b then
      match rest with
      | [] => stripFrom (.quoted quote) (b :: emitted) []
      | escaped :: rest' => stripFrom (.quoted quote) (escaped :: b :: emitted) rest'
    else if b == quote then stripFrom .code (b :: emitted) rest
    else stripFrom (.quoted quote) (b :: emitted) rest
  | .lineComment, emitted, b :: rest =>
    if b == '\n'.toUInt8 then stripFrom .code (b :: emitted) rest
    else stripFrom .lineComment emitted rest
  | .blockComment, emitted, b :: rest =>
    match rest with
    | [] => stripFrom .code (b :: emitted) []
    | next :: rest' =>
      if b == '*'.toUInt8 && next == '/'.toUInt8 then stripFrom .code emitted rest'
      else if b == '\n'.toUInt8 then stripFrom .blockComment (b :: emitted) (next :: rest')
      else stripFrom .blockComment emitted (next :: rest')
  | .regex inClass, emitted, b :: rest =>
    if isBackslash b then
      match rest with
      | [] => stripFrom (.regex inClass) (b :: emitted) []
      | escaped :: rest' => stripFrom (.regex inClass) (escaped :: b :: emitted) rest'
    else if b == '['.toUInt8 then stripFrom (.regex true) (b :: emitted) rest
    else if b == ']'.toUInt8 then stripFrom (.regex false) (b :: emitted) rest
    else if b == '/'.toUInt8 && !inClass then stripFrom .code (b :: emitted) rest
    else stripFrom (.regex inClass) (b :: emitted) rest

def stripBytes (data : List UInt8) : List UInt8 :=
  stripFrom .code [] data

/-- The text without its comments. -/
def stripComments (text : List Char) : List Char :=
  decode (stripBytes (bytes text))

end PluginRecovery.Script
