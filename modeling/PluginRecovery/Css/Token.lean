import PluginRecovery.Text.Bytes

/-!
The tokens of style sheet syntax, as far as selectors can tell them apart. Comments are no tokens.
A name may hold escapes: a backslash and a code, or a backslash and the character it stands for.
-/

set_option autoImplicit false
set_option relaxedAutoImplicit false

namespace PluginRecovery.Css

open PluginRecovery.Text

/-- What opens a block. -/
inductive Opener
  | function (name : String)
  | parenthesis
  | bracket
  | brace
  deriving DecidableEq, Repr

/-- What closes a block. -/
inductive Closer
  | parenthesis
  | bracket
  | brace
  deriving DecidableEq, Repr

inductive Token
  | blank
  | name (text : String)
  /-- A name behind `#`; `plain` when it could stand on its own. -/
  | hash (text : String) (plain : Bool)
  | text (content : String)
  /-- A number; `value` only when it is whole. -/
  | number (value : Option Int) (signed : Bool)
  | dimension (value : Option Int) (unit : String)
  /-- `~=`, `|=`, `^=`, `$=` or `*=`. -/
  | comparison (sign : Char)
  | sign (c : Char)
  | opening (opener : Opener)
  | closing (closer : Closer)
  /-- A text or an address that is broken off. -/
  | broken
  /-- A token that no selector holds. -/
  | other
  deriving DecidableEq, Repr

def isLineEnd (c : Char) : Bool :=
  c == '\n' || c == '\r' || c == '\x0c'

/-- The blanks of style sheets. -/
def isBlankSign (c : Char) : Bool :=
  c == ' ' || c == '\t' || isLineEnd c

def beginsName (c : Char) : Bool :=
  c.isAlpha || c == '_' || c == '\x00' || 127 < c.toNat

def continuesName (c : Char) : Bool :=
  beginsName c || c.isDigit || c == '-'

/-- Whether what follows a backslash is escaped by it. -/
def isEscape (rest : List Char) : Bool :=
  !rest.head?.any isLineEnd

/-- Whether a name stands at the front of a text. -/
def startsName : List Char → Bool
  | '-' :: '-' :: _ => true
  | '-' :: '\\' :: rest | '\\' :: rest => isEscape rest
  | '-' :: c :: _ => beginsName c
  | c :: _ => beginsName c
  | [] => false

/-- Stands in for a character with code zero. -/
def shown (c : Char) : Char :=
  if c == '\x00' then replacement else c

def hexDigitOf (c : Char) : Nat :=
  if c.isDigit then c.toNat - '0'.toNat else c.toLower.toNat - 'a'.toNat + 10

def isHexDigit (c : Char) : Bool :=
  c.isDigit || ('a' ≤ c.toLower && c.toLower ≤ 'f')

/-- The digits at the front of a text, at most `count`, and the text after them. -/
def splitHex : Nat → List Char → List Char × List Char
  | count + 1, c :: rest =>
    if isHexDigit c then
      let (digits, after) := splitHex count rest
      (c :: digits, after)
    else ([], c :: rest)
  | _, text => ([], text)

def dropBlank : List Char → List Char
  | '\r' :: '\n' :: rest => rest
  | c :: rest => if isBlankSign c then rest else c :: rest
  | [] => []

def codePoint (code : Nat) : Char :=
  if code ≠ 0 && code.isValidChar then Char.ofNat code else replacement

/-- The character that an escape stands for, from behind its backslash, and the text after it. -/
def unescape : List Char → Char × List Char
  | [] => (replacement, [])
  | c :: rest =>
    if isHexDigit c then
      let (digits, after) := splitHex 6 (c :: rest)
      (codePoint (digits.foldl (fun value d => value * 16 + hexDigitOf d) 0), dropBlank after)
    else (shown c, rest)

/-- Read a name, of at most `fuel` characters. -/
def readName : Nat → List Char → List Char × List Char
  | 0, text => ([], text)
  | _, [] => ([], [])
  | fuel + 1, c :: rest =>
    if continuesName c then
      let (name, after) := readName fuel rest
      (shown c :: name, after)
    else if c == '\\' && isEscape rest then
      let (escaped, rest') := unescape rest
      let (name, after) := readName fuel rest'
      (escaped :: name, after)
    else ([], c :: rest)

/-- The name at the front of a text, and the text after it. -/
def splitName (text : List Char) : String × List Char :=
  let (name, rest) := readName text.length text
  (String.ofList name, rest)

/-- Read a text up to its quote, of at most `fuel` characters: its content, none when a line break
breaks it off, and the text after it. -/
def readQuoted (quote : Char) : Nat → List Char → Option (List Char) × List Char
  | 0, text => (some [], text)
  | _, [] => (some [], [])
  | fuel + 1, c :: rest =>
    let more (content : List Char) (rest : List Char) : Option (List Char) × List Char :=
      let (following, after) := readQuoted quote fuel rest
      (following.map (content ++ ·), after)
    if c == quote then (some [], rest)
    else if isLineEnd c then (none, c :: rest)
    else if c == '\\' then
      match rest with
      | [] => (some [], [])
      | '\r' :: '\n' :: rest' => more [] rest'
      | d :: rest' =>
        if isLineEnd d then more [] rest'
        else
          let (escaped, rest'') := unescape rest
          more [escaped] rest''
    else more [shown c] rest

/-- A whole number, kept within thirty-two bits. -/
def bounded (value : Int) : Int :=
  max (-2147483648) (min 2147483647 value)

/-- The digits and the fraction and exponent that follow a sign: how many digits there are before
the rest, whether the number is whole, and the text after it. -/
def readNumber (text : List Char) : List Char × Bool × List Char :=
  let whole := text.takeWhile Char.isDigit
  let rest := text.drop whole.length
  let (isWhole, rest) :=
    match rest with
    | '.' :: d :: after => if d.isDigit then (false, after.dropWhile Char.isDigit) else (true, rest)
    | _ => (true, rest)
  match rest with
  | e :: d :: after =>
    if e.toLower != 'e' then (whole, isWhole, rest)
    else if d.isDigit then (whole, false, after.dropWhile Char.isDigit)
    else if (d == '+' || d == '-') && after.head?.any Char.isDigit then
      (whole, false, after.dropWhile Char.isDigit)
    else (whole, isWhole, rest)
  | _ => (whole, isWhole, rest)

/-- Whether a number without a sign stands at the front of a text. -/
def startsNumber : List Char → Bool
  | '.' :: d :: _ => d.isDigit
  | d :: _ => d.isDigit
  | [] => false

/-- Read a number and the unit behind it. -/
def numeric (sign : Option Char) (text : List Char) : Token × List Char :=
  let (digits, isWhole, rest) := readNumber text
  let magnitude := Int.ofNat (digits.foldl (fun value d => value * 10 + (d.toNat - '0'.toNat)) 0)
  let value := if isWhole then
      some (bounded (if sign == some '-' then -magnitude else magnitude)) else none
  match rest with
  | '%' :: rest' => (.other, rest')
  | _ =>
    if startsName rest then
      let (unit, rest') := splitName rest
      (.dimension value unit, rest')
    else (.number value sign.isSome, rest)

/-- The text after the parenthesis that closes a broken address. -/
def afterAddress : List Char → List Char
  | '\\' :: _ :: rest => afterAddress rest
  | ')' :: rest => rest
  | _ :: rest => afterAddress rest
  | [] => []

/-- Read an address without quotes, from behind its parenthesis. -/
def readAddress : Nat → List Char → Token × List Char
  | 0, text => (.other, text)
  | _, [] => (.other, [])
  | fuel + 1, c :: rest =>
    if c == ')' then (.other, rest)
    else if isBlankSign c then
      match rest.dropWhile isBlankSign with
      | [] => (.other, [])
      | ')' :: rest' => (.other, rest')
      | rest' => (.broken, afterAddress rest')
    else if c == '\\' then
      if isEscape rest then readAddress fuel (unescape rest).2
      else (.broken, afterAddress rest)
    else if c == '"' || c == '\'' || c == '(' || (c < ' ' && c != '\x00') || c == '\x7f' then
      (.broken, afterAddress rest)
    else readAddress fuel rest

/-- Read a name, or the name and the parenthesis that open a function. -/
def nameOrFunction (text : List Char) : Token × List Char :=
  let (name, rest) := splitName text
  match rest with
  | '(' :: inner =>
    let start := inner.dropWhile isBlankSign
    if name.map Char.toLower == "url" && !start.head?.any (fun c => c == '"' || c == '\'') then
      readAddress start.length start
    else (.opening (.function name), inner)
  | _ => (.name name, rest)

def hashToken (text : List Char) : Token × List Char :=
  let (name, rest) := splitName text
  if startsName text then (.hash name true, rest)
  else if text.head?.any fun c => c.isDigit || c == '-' then (.hash name false, rest)
  else (.sign '#', text)

/-- The text after a comment, from behind its opening sign. -/
def afterRemark : List Char → List Char
  | '*' :: '/' :: rest => rest
  | _ :: rest => afterRemark rest
  | [] => []

def signToken (c : Char) (rest : List Char) : Token × List Char :=
  match c, rest with
  | '(', _ => (.opening .parenthesis, rest)
  | '[', _ => (.opening .bracket, rest)
  | '{', _ => (.opening .brace, rest)
  | ')', _ => (.closing .parenthesis, rest)
  | ']', _ => (.closing .bracket, rest)
  | '}', _ => (.closing .brace, rest)
  | '-', '-' :: '>' :: rest' => (.other, rest')
  | '<', '!' :: '-' :: '-' :: rest' => (.other, rest')
  | _, '=' :: rest' =>
    if ['~', '|', '^', '$', '*'].contains c then (.comparison c, rest') else (.sign c, rest)
  | _, _ => (.sign c, rest)

/-- Read the token at the front of a text, which is not empty. -/
def nextToken (c : Char) (rest : List Char) : Token × List Char :=
  if isBlankSign c then (.blank, rest.dropWhile isBlankSign)
  else if c == '"' || c == '\'' then
    match readQuoted c rest.length rest with
    | (some content, rest') => (.text (String.ofList content), rest')
    | (none, rest') => (.broken, rest')
  else if c == '#' then hashToken rest
  else if c == '@' && startsName rest then (.other, (splitName rest).2)
  else if (c == '+' || c == '-') && startsNumber rest then numeric (some c) rest
  else if startsNumber (c :: rest) then numeric none (c :: rest)
  else if startsName (c :: rest) && !(c == '-' && rest.take 2 == ['-', '>']) then
    nameOrFunction (c :: rest)
  else signToken c rest

/-- Read tokens, at most `fuel` of them with the comments. -/
def readTokens : Nat → List Char → List Token
  | 0, _ => []
  | _, [] => []
  | fuel + 1, '/' :: '*' :: rest => readTokens fuel (afterRemark rest)
  | fuel + 1, c :: rest =>
    let (token, rest') := nextToken c rest
    token :: readTokens fuel rest'

def tokens (text : List Char) : List Token :=
  readTokens text.length text

end PluginRecovery.Css
