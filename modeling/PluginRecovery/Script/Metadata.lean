import PluginRecovery.Script.Literal
import PluginRecovery.Trace.Chain

/-!
The object literal that holds a plugin's metadata. Five ways to find it are tried in order; but for
the second, which picks out single fields, each candidate must have a key that identifies a plugin.
-/

set_option autoImplicit false
set_option relaxedAutoImplicit false

namespace PluginRecovery.Script

open PluginRecovery.Text PluginRecovery.Pattern

/-- An object literal and the offsets of its first and its last character. -/
structure ObjectLiteral where
  properties : Properties
  start : Nat
  stop : Nat

/-- The keys of which one must be there. -/
def identityKeys : List String :=
  ["id", "name", "sourceName", "sourceSite"]

namespace ObjectLiteral

def keyList (literal : ObjectLiteral) : String :=
  ", ".intercalate (Dictionary.names literal.properties)

/-- Whether one of `identityKeys` is there. -/
def hasIdentity (literal : ObjectLiteral) : Bool :=
  identityKeys.any fun key => (Dictionary.get? literal.properties key).isSome

/-- The literal itself if it identifies a plugin. -/
def acceptIdentity (literal : ObjectLiteral) : Attempt ObjectLiteral :=
  if literal.hasIdentity then .ok literal
  else .error (.rejected ("no identity key among [" ++ literal.keyList ++ "]"))

instance : Summary ObjectLiteral where
  summary literal :=
    "[" ++ toString literal.start ++ ".." ++ toString literal.stop ++ "] \x7b" ++ literal.keyList ++
      "\x7d"

end ObjectLiteral

/-- A constructor that is called with an object literal. -/
def constructorCall : Pattern :=
  "new" ++ blanks ++ word ++ gap ++ "(" ++ gap ++ "\x7b"

/-- Where the argument of the first such call opens. -/
def constructorArgument? (code : List Char) : Option Nat :=
  (constructorCall.search? code).map fun found => found.whole.stop.offset - 1

/-- The text of an object literal, and the offsets of its first and its last character. -/
structure LiteralText where
  text : List Char
  start : Nat
  stop : Nat

/-- The literal read and found acceptable, once its text is found. -/
def readWhole (find : List Char → Attempt LiteralText) (code : List Char) :
    Attempt ObjectLiteral := do
  let literal ← find code
  ObjectLiteral.acceptIdentity ⟨readProperties literal.text, literal.start, literal.stop⟩

/-- The whole argument of the first constructor call. -/
def constructorLiteral (code : List Char) : Attempt LiteralText :=
  match constructorArgument? code with
  | none => .error .noMatch
  | some start =>
    match closingBrace? (bytes code) (start + 1) with
    | none => .error (.unbalanced start)
    | some stop => .ok ⟨slice code start (stop + 1), start, stop⟩

def fromConstructorCall : List Char → Attempt ObjectLiteral :=
  readWhole constructorLiteral

/-- The fields that are picked out one by one. -/
def constructorFields : List String :=
  ["id", "sourceName", "sourceSite", "name", "site", "version", "lang", "icon"]

/-- A field with a double quoted key and a double quoted value, which is group 1. -/
def fieldPattern (key : String) : Pattern :=
  "\"" ++ literal key ++ "\"" ++ gap ++ ":" ++ gap ++ "\"" ++ group 1 (oneOrMore (· != '"')) ++ "\""

/-- How many bytes after the call are searched for fields. -/
def constructorWindow : Nat := 5000

/-- The fields that follow the first constructor call closely. -/
def fromConstructorFields (code : List Char) : Attempt ObjectLiteral :=
  match constructorArgument? code with
  | none => .error .noMatch
  | some start =>
    let chunk := window code start (start + constructorWindow)
    let properties := Dictionary.ofEntries (constructorFields.filterMap fun key =>
      ((fieldPattern key).search? chunk).map fun found =>
        (key, Value.str (String.ofList (found.groupText 1))))
    if properties.isEmpty then .error .noMatch
    else .ok ⟨properties, start, start + size chunk⟩

/-- Characters of any kind, as few as possible. -/
def shortest (least : Nat) (most : Option Nat) : Pattern :=
  many (fun _ => true) least most false

/-- The object that a module exports by default, closed at the beginning of a line. -/
def exportDefault : Pattern :=
  "export" ++ blanks ++ "default" ++ blanks ++ group 1 ("\x7b" ++ shortest 1 none ++ "\n\x7d")

/-- An object of some length that begins a line. -/
def lineStartObject : Pattern :=
  .lineStart ++ gap ++ group 1 ("\x7b" ++ shortest 100 (some 2000) ++ "\x7d")

def isStringQuote (c : Char) : Bool :=
  c == '\'' || c == '"'

def notBrace (c : Char) : Bool :=
  c != '{' && c != '}'

/-- An object without inner braces that has an `id` with a quoted value well inside. -/
def minifiedObject : Pattern :=
  let padding := many notBrace 50 (some 500) false
  let quote := one isStringQuote
  group 1 ("\x7b" ++ padding ++ optional quote ++ "id" ++ optional quote ++ gap ++ ":" ++ gap ++
    quote ++ oneOrMore (!isStringQuote ·) ++ quote ++ padding ++ "\x7d")

/-- The object literal in group 1 of a pattern's first match. -/
def candidateLiteral (p : Pattern) (code : List Char) : Attempt LiteralText :=
  match p.search? code with
  | none => .error .noMatch
  | some found =>
    .ok ⟨found.groupText 1, found.whole.start.offset, found.whole.stop.offset - 1⟩

def fromCandidate (p : Pattern) : List Char → Attempt ObjectLiteral :=
  readWhole (candidateLiteral p)

/-- The ways to find the metadata, in order. -/
def metadataChain : Chain ObjectLiteral where
  field := "metadata"
  steps := [
    ⟨"constructor-call", fromConstructorCall⟩,
    ⟨"constructor-fields", fromConstructorFields⟩,
    ⟨"export-default", fromCandidate exportDefault⟩,
    ⟨"line-start-object", fromCandidate lineStartObject⟩,
    ⟨"minified-object", fromCandidate minifiedObject⟩]

/-- The literals that the steps of `metadataChain` read as a whole; the second step reads none. -/
def metadataLiterals : List (List Char → Attempt LiteralText) := [
  constructorLiteral,
  fun _ => .error .noMatch,
  candidateLiteral exportDefault,
  candidateLiteral lineStartObject,
  candidateLiteral minifiedObject]

/-- Whether the readings of the steps come to an end, for each step with the literal that it reads.
Behind the first step that has a value nothing is read. -/
def literalsEnd (code : List Char) :
    List (Step ObjectLiteral × (List Char → Attempt LiteralText)) → Bool
  | [] => true
  | (step, find) :: rest =>
    (find code).toOption.all (propertiesEnd ·.text) &&
      ((step.attempt code).isOk || literalsEnd code rest)

/-- Whether the search for the metadata comes to an end. -/
def metadataEnds (code : List Char) : Bool :=
  literalsEnd code (metadataChain.steps.zip metadataLiterals)

end PluginRecovery.Script
