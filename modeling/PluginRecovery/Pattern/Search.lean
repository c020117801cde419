import PluginRecovery.Pattern.Basic

/-!
Searching a text for a pattern: the leftmost match, and there the preferred one; and all matches
that do not overlap, from left to right.
-/

set_option autoImplicit false
set_option relaxedAutoImplicit false

namespace PluginRecovery

/-- Where a pattern matched, as a whole and in its groups. -/
structure Match where
  whole : Span
  groups : Groups

namespace Match

/-- The part that a group matched, if the group took part. -/
def group? (m : Match) (number : Nat) : Option Span :=
  m.groups.lookup number

/-- The characters of a group; none when it did not take part. -/
def groupText (m : Match) (number : Nat) : List Char :=
  ((m.group? number).map Span.text).getD []

end Match

namespace Pattern

/-- The preferred match that begins at a place. -/
def matchAt? (p : Pattern) (at_ : Cursor) : Option Match :=
  p.run at_ [] fun stop groups => some ⟨⟨at_, stop⟩, groups⟩

/-- The leftmost match in the text that is left. -/
def searchFrom? (p : Pattern) (before : Option Char) (offset : Nat) : List Char → Option Match
  | [] => p.matchAt? ⟨before, [], offset⟩
  | c :: rest =>
    match p.matchAt? ⟨before, c :: rest, offset⟩ with
    | some found => some found
    | none => p.searchFrom? (some c) (offset + c.utf8Size) rest

def search? (p : Pattern) (text : List Char) : Option Match :=
  p.searchFrom? none 0 text

def occursIn (p : Pattern) (text : List Char) : Bool :=
  (p.search? text).isSome

/-- The matches from a place on. There are no more than `bound` has characters, as each reads at
least one. -/
def searchAllFrom (p : Pattern) : (bound : List Char) → Cursor → List Match
  | [], _ => []
  | _ :: bound, at_ =>
    match p.searchFrom? at_.before at_.offset at_.rest with
    | none => []
    | some found => found :: p.searchAllFrom bound found.whole.stop

/-- The matches of a pattern that always reads a character, each beginning at or after the end of
the one before. -/
def searchAll (p : Pattern) (text : List Char) : List Match :=
  p.searchAllFrom text (Cursor.start text)

end Pattern

end PluginRecovery
