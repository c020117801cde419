import PluginRecovery.Text.Blank

/-!
Texts as UTF-8 bytes. A text is a list of characters; positions in it are byte offsets. This module
holds the encoding, slices by byte offset, and the decoder that puts U+FFFD in the place of bytes
that are no character.
-/

set_option autoImplicit false
set_option relaxedAutoImplicit false

namespace PluginRecovery.Text

/-- The UTF-8 encoding. -/
def bytes (text : List Char) : List UInt8 :=
  text.flatMap String.utf8EncodeChar

/-- The number of bytes of the encoding. -/
def size : List Char → Nat
  | [] => 0
  | c :: rest => c.utf8Size + size rest

/-- The longest part at the front that takes at most `n` bytes. -/
def takeBytes : Nat → List Char → List Char
  | _, [] => []
  | n, c :: rest => if c.utf8Size ≤ n then c :: takeBytes (n - c.utf8Size) rest else []

/-- What is left without the first `n` bytes; a character that is cut goes as a whole. -/
def dropBytes : Nat → List Char → List Char
  | 0, text => text
  | _ + 1, [] => []
  | n + 1, c :: rest => dropBytes (n + 1 - c.utf8Size) rest

/-- The part from byte `start` to byte `stop`. -/
def slice (text : List Char) (start stop : Nat) : List Char :=
  takeBytes (stop - start) (dropBytes start text)

/-- Whether a byte may be the first of a character. Those after it are `0x80` to `0xBF`. -/
def beginsCharacter (b : UInt8) : Bool :=
  b < 0x80 || 0xC0 ≤ b

/-- Whether no character is cut at a byte offset: it is that of an end of the text, or of a byte
that begins a character. -/
def cutsNone (text : List Char) (index : Nat) : Bool :=
  index == 0 || index == size text || (bytes text)[index]?.any beginsCharacter

/-- The part from byte `start` to byte `stop`; there is none when these are in the wrong order, or a
character is cut at one of them. -/
def slice? (text : List Char) (start stop : Nat) : Option (List Char) :=
  if start ≤ stop ∧ cutsNone text start ∧ cutsNone text stop then some (slice text start stop)
  else none

/-- The first offset from `index` downwards at which no character is cut; there is none when the
search would have to go on below the start of the text. -/
def boundaryFrom? (text : List Char) : (index : Nat) → Option Nat
  | 0 => if cutsNone text 0 then some 0 else none
  | index + 1 => if cutsNone text (index + 1) then some (index + 1) else boundaryFrom? text index

/-- The greatest character boundary at or below `index`, which may lie beyond the text. -/
def boundaryUpTo? (text : List Char) (index : Nat) : Option Nat :=
  boundaryFrom? text (min index (size text))

/-- The part from `start` to `stop`, each moved back to a character boundary; empty when the ends
are in the wrong order. -/
def window? (text : List Char) (start stop : Nat) : Option (List Char) := do
  let first ← boundaryUpTo? text start
  let last ← boundaryUpTo? text stop
  slice? text first (max last first)

/-- The part that `window?` gives. It always gives one. -/
def window (text : List Char) (start stop : Nat) : List Char :=
  (window? text start stop).getD []

/-- A character of which some bytes are read: its bits so far, the number of bytes still owed, and
the bounds of the next one. -/
structure Pending where
  bits : Nat
  owed : Nat
  low : UInt8
  high : UInt8

/-- Stands for bytes that are no character. -/
def replacement : Char := '\uFFFD'

/-- Read a byte between characters: what is written at once, and what is begun. -/
def firstByte (b : UInt8) : List Char × Option Pending :=
  if b < 0x80 then ([Char.ofNat b.toNat], none)
  else if b < 0xC2 then ([replacement], none)
  else if b < 0xE0 then ([], some ⟨b.toNat - 0xC0, 1, 0x80, 0xBF⟩)
  else if b = 0xE0 then ([], some ⟨0, 2, 0xA0, 0xBF⟩)
  else if b = 0xED then ([], some ⟨0xD, 2, 0x80, 0x9F⟩)
  else if b < 0xF0 then ([], some ⟨b.toNat - 0xE0, 2, 0x80, 0xBF⟩)
  else if b = 0xF0 then ([], some ⟨0, 3, 0x90, 0xBF⟩)
  else if b < 0xF4 then ([], some ⟨b.toNat - 0xF0, 3, 0x80, 0xBF⟩)
  else if b = 0xF4 then ([], some ⟨4, 3, 0x80, 0x8F⟩)
  else ([replacement], none)

/-- Decode, with one replacement for each maximal run of bytes that begins a character and does not
finish it. -/
def decodeFrom : Option Pending → List UInt8 → List Char
  | none, [] => []
  | some _, [] => [replacement]
  | none, b :: rest =>
    let (out, pending) := firstByte b
    out ++ decodeFrom pending rest
  | some p, b :: rest =>
    if p.low ≤ b ∧ b ≤ p.high then
      let bits := p.bits * 64 + (b.toNat - 0x80)
      if p.owed ≤ 1 then Char.ofNat bits :: decodeFrom none rest
      else decodeFrom (some ⟨bits, p.owed - 1, 0x80, 0xBF⟩) rest
    else
      let (out, pending) := firstByte b
      replacement :: out ++ decodeFrom pending rest

/-- Decode UTF-8, replacing what is malformed. -/
def decode (data : List UInt8) : List Char :=
  decodeFrom none data

end PluginRecovery.Text
