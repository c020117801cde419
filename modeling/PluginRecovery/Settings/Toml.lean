import PluginRecovery.Json.Reader
import PluginRecovery.Settings.Tree

/-!
Reading TOML documents. A document is a list of lines that open tables or assign values; they are
read first and then built into a tree, where no name may be given twice.
-/

set_option autoImplicit false
set_option relaxedAutoImplicit false

namespace PluginRecovery.Toml

/-- A value as it is read; a table in braces is closed. -/
inductive Value where
  | setting (value : Setting)
  | list (items : List Value)
  | inline (entries : List (List String × Value))
  deriving Inhabited

/-- A line: a table's head, the head of one of several tables, or an assignment. -/
inductive Statement where
  | table (path : List String)
  | element (path : List String)
  | assign (path : List String) (value : Value)

/-- What a reader yields: something and what follows it. -/
abbrev Reader (α : Type) := List Char → Option (α × List Char)

/-! ### White space and comments -/

def isSpace (c : Char) : Bool :=
  c == ' ' || c == '\t'

def skipSpace (text : List Char) : List Char :=
  text.dropWhile isSpace

/-- A character that may stand in comments and in strings. -/
def isPlain (c : Char) : Bool :=
  c == '\t' || (0x20 ≤ c.toNat && c.toNat != 0x7F)

/-- The text after a comment, if there is one here. -/
def skipComment : List Char → List Char
  | '#' :: rest => rest.dropWhile isPlain
  | text => text

/-- The text after a line's end, which may be the end of the text. -/
def endLine? (text : List Char) : Option (List Char) :=
  match skipComment (skipSpace text) with
  | [] => some []
  | '\n' :: rest => some rest
  | '\r' :: '\n' :: rest => some rest
  | _ => none

/-- The text after white space, line ends and comments; `fuel` bounds the lines. -/
def skipLines : Nat → List Char → List Char
  | 0, text => text
  | fuel + 1, text =>
    match skipComment (skipSpace text) with
    | '\n' :: rest => skipLines fuel rest
    | '\r' :: '\n' :: rest => skipLines fuel rest
    | rest => rest

/-! ### Strings -/

/-- The character of a code point written in hexadecimal digits. -/
def codePoint? (digits : List Char) : Option Char := do
  let n ← digits.foldlM (fun n c => (Json.hexValue? c).map fun d => n * 16 + d) 0
  if n < 0xD800 ∨ (0xE000 ≤ n ∧ n < 0x110000) then some (Char.ofNat n) else none

/-- What a backslash and a letter stand for. -/
def escape? : Char → Option Char
  | 'b' => some '\x08'
  | 't' => some '\t'
  | 'n' => some '\n'
  | 'f' => some '\x0c'
  | 'r' => some '\r'
  | '"' => some '"'
  | '\\' => some '\\'
  | _ => none

/-- The character of an escape, after its backslash. -/
def readEscape : Reader Char
  | 'u' :: rest =>
    if 4 ≤ rest.length then (codePoint? (rest.take 4)).map fun c => (c, rest.drop 4) else none
  | 'U' :: rest =>
    if 8 ≤ rest.length then (codePoint? (rest.take 8)).map fun c => (c, rest.drop 8) else none
  | c :: rest => (escape? c).map fun c => (c, rest)
  | [] => none

/-- The rest of a double quoted string; `fuel` bounds its length. -/
def readBasic : Nat → Reader (List Char)
  | 0, _ => none
  | _ + 1, [] => none
  | _ + 1, '"' :: rest => some ([], rest)
  | fuel + 1, '\\' :: rest =>
    match readEscape rest with
    | none => none
    | some (c, rest) => (readBasic fuel rest).map fun (more, rest) => (c :: more, rest)
  | fuel + 1, c :: rest =>
    if isPlain c then (readBasic fuel rest).map fun (more, rest) => (c :: more, rest) else none

/-- The rest of a single quoted string. -/
def readLiteral : Reader (List Char)
  | [] => none
  | '\'' :: rest => some ([], rest)
  | c :: rest =>
    if isPlain c then (readLiteral rest).map fun (more, rest) => (c :: more, rest) else none

/-- The text after a backslash that ends a line: the white space and line ends that follow are
skipped. -/
def skipBlank (text : List Char) : List Char :=
  text.dropWhile fun c => isSpace c || c == '\n' || c == '\r'

/-- The rest of a string over several lines, between triple quotes. Up to two quotes may stand
before the closing ones. -/
def readLong (quote : Char) (escapes : Bool) : Nat → Reader (List Char)
  | 0, _ => none
  | _ + 1, [] => none
  | fuel + 1, c :: rest =>
    if c == quote then
      match rest with
      | a :: b :: rest' =>
        if a == quote && b == quote then
          match rest' with
          | d :: e :: rest'' =>
            if d == quote then
              if e == quote then some ([quote, quote], rest'') else some ([quote], e :: rest'')
            else some ([], d :: e :: rest'')
          | [d] => if d == quote then some ([quote], []) else some ([], [d])
          | [] => some ([], [])
        else (readLong quote escapes fuel rest).map fun (more, rest) => (c :: more, rest)
      | _ => none
    else if escapes && c == '\\' then
      match skipComment (skipSpace rest) with
      | '\n' :: rest' => readLong quote escapes fuel (skipBlank rest')
      | '\r' :: '\n' :: rest' => readLong quote escapes fuel (skipBlank rest')
      | _ =>
        match readEscape rest with
        | none => none
        | some (c, rest) =>
          (readLong quote escapes fuel rest).map fun (more, rest) => (c :: more, rest)
    else if isPlain c || c == '\n' then
      (readLong quote escapes fuel rest).map fun (more, rest) => (c :: more, rest)
    else if c == '\r' && rest.head? == some '\n' then
      (readLong quote escapes fuel rest).map fun (more, rest) => (c :: more, rest)
    else none

def skipFirstLineEnd : List Char → List Char
  | '\n' :: rest => rest
  | '\r' :: '\n' :: rest => rest
  | text => text

/-- A string in any of the four forms. -/
def readString : Reader String
  | '"' :: '"' :: '"' :: rest =>
    (readLong '"' true (rest.length + 1) (skipFirstLineEnd rest)).map fun (s, rest) =>
      (String.ofList s, rest)
  | '\'' :: '\'' :: '\'' :: rest =>
    (readLong '\'' false (rest.length + 1) (skipFirstLineEnd rest)).map fun (s, rest) =>
      (String.ofList s, rest)
  | '"' :: rest => (readBasic (rest.length + 1) rest).map fun (s, rest) => (String.ofList s, rest)
  | '\'' :: rest => (readLiteral rest).map fun (s, rest) => (String.ofList s, rest)
  | _ => none

/-! ### Keys -/

/-- One name: plain or quoted on one line. -/
def readName (text : List Char) : Option (String × List Char) :=
  match text with
  | '"' :: rest => (readBasic (rest.length + 1) rest).map fun (s, rest) => (String.ofList s, rest)
  | '\'' :: rest => (readLiteral rest).map fun (s, rest) => (String.ofList s, rest)
  | text =>
    match text.takeWhile Setting.isNameChar with
    | [] => none
    | name => some (String.ofList name, text.dropWhile Setting.isNameChar)

/-- Names with points between them; `fuel` bounds their number. -/
def readPath : Nat → Reader (List String)
  | 0, _ => none
  | fuel + 1, text =>
    match readName (skipSpace text) with
    | none => none
    | some (name, rest) =>
      match skipSpace rest with
      | '.' :: rest => (readPath fuel rest).map fun (path, rest) => (name :: path, rest)
      | rest => some ([name], rest)

/-! ### Numbers, times and other plain values -/

/-- Digits of a base with single underscores between them. -/
def digits? (isDigit : Char → Bool) (text : List Char) : Option (List Char) :=
  let parts := text.splitOnP (· == '_')
  if parts.all fun part => !part.isEmpty && part.all isDigit then some parts.flatten else none

/-- A number of digits of the given base. -/
def based? (base : Nat) (text : List Char) : Option Int := do
  let digits ← digits? (fun c => (Json.hexValue? c).any (· < base)) text
  let n := digits.foldl (fun n c => n * base + (Json.hexValue? c).getD 0) 0
  if n < 0x8000000000000000 then some n else none

/-- A decimal number without a zero in front of other digits. -/
def decimalDigits? (text : List Char) : Option (List Char) := do
  let digits ← digits? Char.isDigit text
  if 1 < digits.length ∧ digits.head? = some '0' then none else some digits

def integer? (text : List Char) : Option Int :=
  match text with
  | '0' :: 'x' :: rest => based? 16 rest
  | '0' :: 'o' :: rest => based? 8 rest
  | '0' :: 'b' :: rest => based? 2 rest
  | _ =>
    let (negative, unsigned) := Decimal.splitSign text
    (decimalDigits? unsigned).bind fun digits =>
      Decimal.int64? (Decimal.signed negative digits)

def exponent? : List Char → Option (List Char)
  | [] => some []
  | _ :: rest =>
    let (negative, digits) := Decimal.splitSign rest
    (digits? Char.isDigit digits).map fun digits => 'e' :: Decimal.signed negative digits

/-- A number with a fraction or an exponent, or one of the words for infinity and for no number. -/
def float? (text : List Char) : Option Float :=
  let (negative, unsigned) := Decimal.splitSign text
  let sign (x : Float) := if negative then -x else x
  if unsigned = "inf".toList then some (sign (1.0 / 0.0))
  else if unsigned = "nan".toList then some (0.0 / 0.0)
  else do
    let isMark (c : Char) := c == 'e' || c == 'E'
    let mantissa := unsigned.takeWhile (!isMark ·)
    let exponent ← exponent? (unsigned.dropWhile (!isMark ·))
    let whole ← decimalDigits? (mantissa.takeWhile (· != '.'))
    let fraction ← match mantissa.dropWhile (· != '.') with
      | [] => some []
      | _ :: rest => (digits? Char.isDigit rest).map ('.' :: ·)
    if fraction.isEmpty && exponent.isEmpty then none
    (Decimal.double? (whole ++ fraction ++ exponent)).map sign

def twoDigits? : Reader Nat
  | a :: b :: rest =>
    if a.isDigit && b.isDigit then some (Decimal.natOfDigits 0 [a, b], rest) else none
  | _ => none

def isLeap (year : Nat) : Bool :=
  year % 4 == 0 && (year % 100 != 0 || year % 400 == 0)

def daysIn (year month : Nat) : Nat :=
  if month == 2 then if isLeap year then 29 else 28
  else if month == 4 || month == 6 || month == 9 || month == 11 then 30 else 31

/-- The text after a date. -/
def skipDate? : List Char → Option (List Char)
  | a :: b :: c :: d :: '-' :: rest => do
    if !([a, b, c, d].all Char.isDigit) then none
    let year := Decimal.natOfDigits 0 [a, b, c, d]
    let (month, rest) ← twoDigits? rest
    match rest with
    | '-' :: rest =>
      let (day, rest) ← twoDigits? rest
      if 1 ≤ month ∧ month ≤ 12 ∧ 1 ≤ day ∧ day ≤ daysIn year month then some rest else none
    | _ => none
  | _ => none

/-- The text after a time of day. -/
def skipTime? (text : List Char) : Option (List Char) := do
  let (hour, rest) ← twoDigits? text
  match rest with
  | ':' :: rest =>
    let (minute, rest) ← twoDigits? rest
    match rest with
    | ':' :: rest =>
      let (second, rest) ← twoDigits? rest
      if hour ≤ 23 ∧ minute ≤ 59 ∧ second ≤ 60 then
        match rest with
        | '.' :: rest =>
          if (rest.takeWhile Char.isDigit).isEmpty then none else some (rest.dropWhile Char.isDigit)
        | rest => some rest
      else none
    | _ => none
  | _ => none

/-- Nothing, or the offset of a time zone. -/
def isOffset : List Char → Bool
  | [] => true
  | ['Z'] => true
  | ['z'] => true
  | sign :: rest =>
    (sign == '+' || sign == '-') &&
      match twoDigits? rest with
      | some (hour, ':' :: rest) =>
        match twoDigits? rest with
        | some (minute, []) => hour ≤ 23 && minute ≤ 59
        | _ => false
      | _ => false

/-- A date, a time of day or both, in the latter case with an offset or without one. -/
def isTime (text : List Char) : Bool :=
  match skipDate? text with
  | none => skipTime? text == some []
  | some [] => true
  | some (mark :: rest) =>
    (mark == 'T' || mark == 't' || mark == ' ') &&
      match skipTime? rest with
      | none => false
      | some rest => isOffset rest

/-- A character of a plain value. -/
def isWordChar (c : Char) : Bool :=
  c.isAlphanum || c == '_' || c == '-' || c == '+' || c == '.' || c == ':'

/-- What a plain word means. -/
def wordValue? (word : List Char) : Option Setting :=
  if word = "true".toList then some (.bool true)
  else if word = "false".toList then some (.bool false)
  else
    match integer? word with
    | some n => some (.int n)
    | none =>
      match float? word with
      | some x => some (.float x)
      | none => if isTime word then some (.text (String.ofList word)) else none

/-- A plain value. A date may be followed by a space and a time. -/
def readWord (text : List Char) : Option (Setting × List Char) :=
  let word := text.takeWhile isWordChar
  let rest := text.dropWhile isWordChar
  match rest with
  | ' ' :: more =>
    let time := more.takeWhile isWordChar
    if skipDate? word = some [] ∧ !time.isEmpty ∧ isTime (word ++ ' ' :: time) then
      some (.text (String.ofList (word ++ 'T' :: time)), more.dropWhile isWordChar)
    else (wordValue? word).map fun value => (value, rest)
  | _ => (wordValue? word).map fun value => (value, rest)

/-! ### Values -/

mutual

/-- A value; `fuel` bounds the nesting and the number of items. -/
def readValue : Nat → Reader Value
  | 0, _ => none
  | fuel + 1, text =>
    match text with
    | '"' :: _ => (readString text).map fun (s, rest) => (.setting (.text s), rest)
    | '\'' :: _ => (readString text).map fun (s, rest) => (.setting (.text s), rest)
    | '[' :: rest =>
      match skipLines (rest.length + 1) rest with
      | ']' :: rest => some (.list [], rest)
      | rest => (readItems fuel rest).map fun (items, rest) => (.list items, rest)
    | '{' :: rest =>
      match skipSpace rest with
      | '}' :: rest => some (.inline [], rest)
      | rest => (readEntries fuel rest).map fun (entries, rest) => (.inline entries, rest)
    | _ => (readWord text).map fun (value, rest) => (.setting value, rest)

/-- Items up to the closing bracket. -/
def readItems : Nat → Reader (List Value)
  | 0, _ => none
  | fuel + 1, text =>
    match readValue fuel text with
    | none => none
    | some (item, rest) =>
      match skipLines (rest.length + 1) rest with
      | ']' :: rest => some ([item], rest)
      | ',' :: rest =>
        match skipLines (rest.length + 1) rest with
        | ']' :: rest => some ([item], rest)
        | rest => (readItems fuel rest).map fun (items, rest) => (item :: items, rest)
      | _ => none

/-- Assignments up to the closing brace, on one line. -/
def readEntries : Nat → Reader (List (List String × Value))
  | 0, _ => none
  | fuel + 1, text =>
    match readPath (text.length + 1) text with
    | some (path, '=' :: rest) =>
      match readValue fuel (skipSpace rest) with
      | none => none
      | some (value, rest) =>
        match skipSpace rest with
        | '}' :: rest => some ([(path, value)], rest)
        | ',' :: rest =>
          (readEntries fuel rest).map fun (entries, rest) => ((path, value) :: entries, rest)
        | _ => none
    | _ => none

end

/-! ### Lines -/

/-- The rest of a line after its statement. -/
def closeLine (statement : Statement) (rest : List Char) : Option (Statement × List Char) :=
  (endLine? rest).map fun rest => (statement, rest)

/-- One statement and its line. -/
def readStatement (text : List Char) : Option (Statement × List Char) :=
  match text with
  | '[' :: '[' :: rest =>
    match readPath (rest.length + 1) rest with
    | some (path, ']' :: ']' :: rest) => closeLine (.element path) rest
    | _ => none
  | '[' :: rest =>
    match readPath (rest.length + 1) rest with
    | some (path, ']' :: rest) => closeLine (.table path) rest
    | _ => none
  | _ =>
    match readPath (text.length + 1) text with
    | some (path, '=' :: rest) =>
      match readValue (rest.length + 1) (skipSpace rest) with
      | some (value, rest) => closeLine (.assign path value) rest
      | none => none
    | _ => none

/-- The statements of a document; `fuel` bounds their number. -/
def readStatements : Nat → List Char → Option (List Statement)
  | 0, _ => none
  | fuel + 1, text =>
    match skipLines (text.length + 1) text with
    | [] => some []
    | text =>
      match readStatement text with
      | none => none
      | some (statement, rest) => (readStatements fuel rest).map (statement :: ·)

/-! ### The tree -/

/-- How a table came to be: as a part of another's path, by a head of its own, by an assignment to a
path. -/
inductive Origin where
  | passing
  | head
  | dotted
  deriving DecidableEq

/-- The tree while it is built. Tables in braces and lists in brackets are closed values. -/
inductive Node where
  | closed (value : Setting)
  | table (origin : Origin) (entries : List (String × Node))
  | elements (tables : List (List (String × Node)))
  deriving Inhabited

/-- The entries with the node of `name` replaced, or added at the end. -/
def replace (name : String) (node : Node) : List (String × Node) → List (String × Node)
  | [] => [(name, node)]
  | (other, old) :: rest =>
    if other = name then (name, node) :: rest else (other, old) :: replace name node rest

/-- Change the entries that a path leads to, with `change`. Tables on the way are made with the given
origin; to pass through one with a head of its own is allowed only where `throughHeads` says so. In
a list of tables the last one is meant. -/
def changeAt (origin : Origin) (throughHeads : Bool)
    (change : List (String × Node) → Option (List (String × Node))) :
    List String → List (String × Node) → Option (List (String × Node))
  | [], entries => change entries
  | name :: path, entries =>
    match entries.lookup name with
    | none =>
      (changeAt origin throughHeads change path []).map fun inner =>
        replace name (.table origin inner) entries
    | some (.table old inner) =>
      if old = .head ∧ !throughHeads then none
      else (changeAt origin throughHeads change path inner).map fun inner =>
        replace name (.table old inner) entries
    | some (.elements tables) =>
      if !throughHeads then none
      else match tables.getLast? with
        | none => none
        | some last =>
          (changeAt origin throughHeads change path last).map fun inner =>
            replace name (.elements (tables.dropLast ++ [inner])) entries
    | some (.closed _) => none

def addNew (name : String) (node : Node) (entries : List (String × Node)) :
    Option (List (String × Node)) :=
  if (entries.lookup name).isSome then none else some (entries ++ [(name, node)])

/-- Open a table by its head: a new one, or one that was only passed through. -/
def openTable (name : String) (entries : List (String × Node)) : Option (List (String × Node)) :=
  match entries.lookup name with
  | none => some (entries ++ [(name, .table .head [])])
  | some (.table .passing inner) => some (replace name (.table .head inner) entries)
  | some _ => none

/-- Add an element to a list of tables. -/
def openElement (name : String) (entries : List (String × Node)) : Option (List (String × Node)) :=
  match entries.lookup name with
  | none => some (entries ++ [(name, .elements [[]])])
  | some (.elements tables) => some (replace name (.elements (tables ++ [[]])) entries)
  | some _ => none

mutual

def Node.toSetting : Node → Setting
  | .closed value => value
  | .table _ entries => .table (entriesToSettings entries)
  | .elements tables => .list (tablesToSettings tables)

def entriesToSettings : List (String × Node) → List (String × Setting)
  | [] => []
  | (name, node) :: rest => (name, node.toSetting) :: entriesToSettings rest

def tablesToSettings : List (List (String × Node)) → List Setting
  | [] => []
  | entries :: rest => .table (entriesToSettings entries) :: tablesToSettings rest

end

mutual

def Value.toSetting? : Value → Option Setting
  | .setting value => some value
  | .list items => (itemsToSettings? items).map .list
  | .inline entries =>
    (inlineNodes? [] entries).map fun nodes => .table (entriesToSettings nodes)

def itemsToSettings? : List Value → Option (List Setting)
  | [] => some []
  | item :: rest =>
    match item.toSetting?, itemsToSettings? rest with
    | some item, some rest => some (item :: rest)
    | _, _ => none

/-- The entries of a table in braces, added to those already there. -/
def inlineNodes? (nodes : List (String × Node)) :
    List (List String × Value) → Option (List (String × Node))
  | [] => some nodes
  | (path, value) :: rest =>
    match value.toSetting? with
    | none => none
    | some setting =>
      match path.getLast? with
      | none => none
      | some name =>
        match changeAt .dotted false (addNew name (.closed setting)) path.dropLast nodes with
        | none => none
        | some nodes => inlineNodes? nodes rest

end

/-- The tree after a statement, and the path of the table that assignments are for. -/
def apply (state : List String × List (String × Node)) (statement : Statement) :
    Option (List String × List (String × Node)) :=
  let (current, root) := state
  match statement with
  | .table path => do
    let name ← path.getLast?
    let root ← changeAt .passing true (openTable name) path.dropLast root
    return (path, root)
  | .element path => do
    let name ← path.getLast?
    let root ← changeAt .passing true (openElement name) path.dropLast root
    return (path, root)
  | .assign path value => do
    let name ← path.getLast?
    let setting ← value.toSetting?
    let assign := changeAt .dotted false (addNew name (.closed setting)) path.dropLast
    let root ← changeAt .passing true assign current root
    return (current, root)

/-- The names and values at the top of a document. -/
def read? (text : List Char) : Option (List (String × Setting)) := do
  let statements ← readStatements (text.length + 2) text
  let (_, root) ← statements.foldlM apply ([], [])
  return entriesToSettings root

end PluginRecovery.Toml
