import PluginRecovery.Url.Basic

/-!
Paths of addresses: which characters stand as they are, and what the dot segments do. A single dot
is left out and a double dot takes back the segment before it; at the end of a path each leaves an
empty segment behind.
-/

set_option autoImplicit false
set_option relaxedAutoImplicit false

namespace PluginRecovery.Url

open PluginRecovery.Text

/-- Printable and within ASCII. -/
def isPlain (c : Char) : Bool :=
  ' ' ≤ c && c < '\x7f'

def inFragment (c : Char) : Bool :=
  isPlain c && ! [' ', '"', '<', '>', '`'].contains c

def inPath (c : Char) : Bool :=
  inFragment c && ! ['#', '?', '{', '}'].contains c

def inCredentials (c : Char) : Bool :=
  inPath c && ! ['/', ':', ';', '=', '@', '[', '\\', ']', '^', '|'].contains c

def inQuery (special : Bool) (c : Char) : Bool :=
  isPlain c && ! [' ', '"', '#', '<', '>'].contains c && !(special && c == '\'')

/-- What `%2e` says with a dot in its place. -/
def withDots : List Char → List Char
  | '%' :: '2' :: 'e' :: rest | '%' :: '2' :: 'E' :: rest => '.' :: withDots rest
  | c :: rest => c :: withDots rest
  | [] => []

/-- A segment that is left out. -/
def isSingleDot (segment : List Char) : Bool :=
  withDots segment == ['.']

/-- A segment that takes back the one before it. -/
def isDoubleDot (segment : List Char) : Bool :=
  withDots segment == ['.', '.']

/-- A letter and a colon or a bar: a drive. -/
def isDrive : List Char → Bool
  | [letter, sign] => letter.isAlpha && (sign == ':' || sign == '|')
  | _ => false

/-- A drive with its sign made a colon; any other segment as it is. -/
def normalDrive (segment : List Char) : List Char :=
  if isDrive segment then segment.take 1 ++ [':'] else segment

/-- The segments without the last, all newest first. The drive that begins a file's path stays. -/
def shorten (file : Bool) : List (List Char) → List (List Char)
  | [] => []
  | [only] => if file && isDrive only then [only] else []
  | _ :: rest => rest

/-- A segment as it is put behind others: a drive is one only at the start of a file's path. -/
def placed (file : Bool) (before : List (List Char)) (segment : List Char) : List Char :=
  percentEncode inPath (if file && before.isEmpty then normalDrive segment else segment)

/-- Put segments one by one behind those given, which are newest first, as the result is. -/
def follow (file : Bool) : List (List Char) → List (List Char) → List (List Char)
  | before, [] => before
  | before, [last] =>
    if isDoubleDot last then [] :: shorten file before
    else if isSingleDot last then [] :: before
    else placed file before last :: before
  | before, segment :: rest =>
    if isDoubleDot segment then follow file (shorten file before) rest
    else if isSingleDot segment then follow file before rest
    else follow file (placed file before segment :: before) rest

def isSlash (special : Bool) (c : Char) : Bool :=
  c == '/' || (special && c == '\\')

/-- The segments between the slashes of a text. -/
def segmentsOf (special : Bool) (text : List Char) : List (List Char) :=
  text.splitOnP (isSlash special)

/-- The path that leads from the segments given along a text. The path of a file begins with no
empty segments. -/
def pathFrom (scheme : String) (given : List String) (text : List Char) : UrlPath :=
  let file := scheme == "file"
  let all := (follow file (given.map String.toList).reverse
    (segmentsOf (isSpecial scheme) text)).reverse
  let kept := if file then all.dropWhile List.isEmpty else all
  .segments ((if file && kept.isEmpty then [[]] else kept).map String.ofList)

/-- The path that a text names from the root: none at all when nothing is written and the scheme
does not ask for one. -/
def rootPath (scheme : String) (text : List Char) : UrlPath :=
  match text with
  | [] => if isSpecial scheme then .segments [""] else .segments []
  | c :: rest => pathFrom scheme [] (if isSlash (isSpecial scheme) c then rest else c :: rest)

end PluginRecovery.Url
