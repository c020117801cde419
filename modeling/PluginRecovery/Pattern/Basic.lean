import PluginRecovery.Text.Bytes
import PluginRecovery.Text.Word

/-!
Patterns over texts and the order in which they try their alternatives. `Pattern.run` passes every
way to match to a continuation, the preferred one first, and stops at the first that the
continuation accepts.
-/

set_option autoImplicit false
set_option relaxedAutoImplicit false

namespace PluginRecovery

open PluginRecovery.Text

/-- A place in a text: the character before it, what follows, and its byte offset. -/
structure Cursor where
  before : Option Char
  rest : List Char
  offset : Nat
  deriving DecidableEq

namespace Cursor

def start (text : List Char) : Cursor :=
  ⟨none, text, 0⟩

/-- The place after the character `c`, which `rest` follows. -/
def after (at_ : Cursor) (c : Char) (rest : List Char) : Cursor :=
  ⟨some c, rest, at_.offset + c.utf8Size⟩

/-- At the beginning of the text or after a newline. -/
def atLineStart (at_ : Cursor) : Bool :=
  match at_.before with
  | none => true
  | some c => c == '\n'

end Cursor

/-- A part of a text, from one place to a later one. -/
structure Span where
  start : Cursor
  stop : Cursor
  deriving DecidableEq

def Span.text (s : Span) : List Char :=
  takeBytes (s.stop.offset - s.start.offset) s.start.rest

/-- The numbered groups of a match, the one closed last in front. -/
abbrev Groups := List (Nat × Span)

/-- A pattern. Alternatives are tried from left to right. -/
inductive Pattern where
  /-- Matches without reading. -/
  | empty
  /-- Reads one character. -/
  | one (accepts : Char → Bool)
  /-- Matches at the beginning of a line. -/
  | lineStart
  | seq (first second : Pattern)
  | alt (first second : Pattern)
  /-- Reads characters of one class, as many as it can or as few. -/
  | many (accepts : Char → Bool) (least : Nat) (most : Option Nat) (greedy : Bool)
  /-- Repeats a pattern, as often as it can. -/
  | star (body : Pattern)
  /-- Keeps what the pattern matches under a number. -/
  | group (number : Nat) (body : Pattern)

namespace Pattern

variable {α : Type}

/-- Read characters of a class, at least `least` and at most `most`, and go on with `next`. -/
def repeatOne (accepts : Char → Bool) (greedy : Bool) (next : Cursor → Option α)
    (least : Nat) (most : Option Nat) (before : Option Char) (offset : Nat) :
    List Char → Option α
  | [] => if least = 0 then next ⟨before, [], offset⟩ else none
  | c :: rest =>
    let more := accepts c && most != some 0
    if greedy then
      if more then
        match repeatOne accepts greedy next (least - 1) (most.map (· - 1)) (some c)
            (offset + c.utf8Size) rest with
        | some found => some found
        | none => if least = 0 then next ⟨before, c :: rest, offset⟩ else none
      else if least = 0 then next ⟨before, c :: rest, offset⟩ else none
    else
      match if least = 0 then next ⟨before, c :: rest, offset⟩ else none with
      | some found => some found
      | none =>
        if more then
          repeatOne accepts greedy next (least - 1) (most.map (· - 1)) (some c)
            (offset + c.utf8Size) rest
        else none

/-- Repeat `step` as often as it goes, but no more often than `bound` has characters, and go on with
`next`. -/
def repeatStep (step : Cursor → Groups → (Cursor → Groups → Option α) → Option α)
    (next : Cursor → Groups → Option α) :
    (bound : List Char) → Cursor → Groups → Option α
  | [], at_, groups => next at_ groups
  | _ :: bound, at_, groups =>
    match step at_ groups (repeatStep step next bound) with
    | some found => some found
    | none => next at_ groups

/-- Match at a place and go on with `next`. A repetition is bounded by the text that is left, since
each round reads at least one character. -/
def run : Pattern → Cursor → Groups → (Cursor → Groups → Option α) → Option α
  | .empty, at_, groups, next => next at_ groups
  | .one accepts, at_, groups, next =>
    match at_.rest with
    | [] => none
    | c :: rest => if accepts c then next (at_.after c rest) groups else none
  | .lineStart, at_, groups, next => if at_.atLineStart then next at_ groups else none
  | .seq first second, at_, groups, next =>
    first.run at_ groups fun at_ groups => second.run at_ groups next
  | .alt first second, at_, groups, next =>
    match first.run at_ groups next with
    | some found => some found
    | none => second.run at_ groups next
  | .many accepts least most greedy, at_, groups, next =>
    repeatOne accepts greedy (fun at_ => next at_ groups) least most at_.before at_.offset at_.rest
  | .star body, at_, groups, next => repeatStep body.run next at_.rest at_ groups
  | .group number body, at_, groups, next =>
    body.run at_ groups fun stop groups => next stop ((number, ⟨at_, stop⟩) :: groups)

/-! ### Building patterns -/

/-- One pattern after the other. -/
instance : Append Pattern := ⟨seq⟩

def literal (text : String) : Pattern :=
  text.toList.foldr (fun c rest => .seq (.one (· == c)) rest) .empty

instance : Coe String Pattern := ⟨literal⟩

/-- The first of the patterns that matches. -/
def firstOf : List Pattern → Pattern
  | [] => .one fun _ => false
  | [p] => p
  | p :: rest => .alt p (firstOf rest)

def optional (p : Pattern) : Pattern :=
  .alt p .empty

/-- Any number of characters of a class. -/
def anyNumber (accepts : Char → Bool) : Pattern :=
  .many accepts 0 none true

/-- One character of a class or more. -/
def oneOrMore (accepts : Char → Bool) : Pattern :=
  .many accepts 1 none true

/-- White space or nothing. -/
def gap : Pattern :=
  anyNumber isBlank

def blanks : Pattern :=
  oneOrMore isBlank

def word : Pattern :=
  oneOrMore isWord

/-- Whether a character differs from `letter` only in case. Beyond ASCII, the long s and the Kelvin
sign do. -/
def sameLetter (letter c : Char) : Bool :=
  c.toLower == letter.toLower || (letter.toLower == 's' && c == '\u017F') ||
    (letter.toLower == 'k' && c == '\u212A')

/-- The given letters in any case. -/
def anyCase (text : String) : Pattern :=
  text.toList.foldr (fun c rest => .seq (.one (sameLetter c)) rest) .empty

end Pattern

end PluginRecovery
