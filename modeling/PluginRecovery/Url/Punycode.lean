/-!
Labels of domain names in ASCII. The plain characters come first; the others follow in the order of
their code points, each as the distance from the one before it, in digits whose thresholds adapt to
the distances seen.
-/

set_option autoImplicit false
set_option relaxedAutoImplicit false

namespace PluginRecovery.Punycode

/-- The digit with a value below 36: letters, then numerals. -/
def digit (value : Nat) : Char :=
  Char.ofNat (if value < 26 then 'a'.toNat + value else '0'.toNat + value - 26)

def digitValue? (c : Char) : Option Nat :=
  if 'a' ≤ c && c ≤ 'z' then some (c.toNat - 'a'.toNat)
  else if 'A' ≤ c && c ≤ 'Z' then some (c.toNat - 'A'.toNat)
  else if '0' ≤ c && c ≤ '9' then some (c.toNat - '0'.toNat + 26)
  else none

/-- The least value of a digit that does not end a number, at a position that counts in steps
of 36. -/
def threshold (position bias : Nat) : Nat :=
  max 1 (min 26 (position - bias))

theorem one_le_threshold (position bias : Nat) : 1 ≤ threshold position bias := by
  unfold threshold; omega

theorem threshold_le (position bias : Nat) : threshold position bias ≤ 26 := by
  unfold threshold; omega

/-- Bring a distance below 456, counting 36 for each division by 35. -/
def scale (distance position : Nat) : Nat × Nat :=
  if 455 < distance then scale (distance / 35) (position + 36) else (distance, position)
termination_by distance
decreasing_by exact Nat.div_lt_self (by omega) (by omega)

/-- The bias after a distance, with `count` characters placed. -/
def adapt (distance count : Nat) (first : Bool) : Nat :=
  let halved := if first then distance / 700 else distance / 2
  let (scaled, position) := scale (halved + halved / count) 0
  position + 36 * scaled / (scaled + 38)

/-- A number in digits, the lowest first. -/
def encodeNumber (bias position value : Nat) : List Char :=
  let t := threshold position bias
  if value < t then [digit value]
  else
    digit (t + (value - t) % (36 - t)) ::
      encodeNumber bias (position + 36) ((value - t) / (36 - t))
termination_by value
decreasing_by
  have h := one_le_threshold position bias
  have h' := Nat.div_le_self (value - threshold position bias) (36 - threshold position bias)
  omega

/-- An encoder between two characters. -/
structure Encoder where
  /-- The digits written, the last first. -/
  written : List Char := []
  distance : Nat := 0
  bias : Nat := 72
  /-- The number of characters placed. -/
  placed : Nat

/-- Pass a character of the label while those with code point `point` are placed. -/
def Encoder.pass (basic point : Nat) (e : Encoder) (c : Char) : Encoder :=
  if c.toNat < point then { e with distance := e.distance + 1 }
  else if c.toNat == point then
    { written := (encodeNumber e.bias 36 e.distance).reverse ++ e.written
      distance := 0
      bias := adapt e.distance (e.placed + 1) (e.placed == basic)
      placed := e.placed + 1 }
  else e

/-- Place the characters of each code point in turn, the last one placed being below `next`. -/
def Encoder.place (label : List Char) (basic : Nat) : List Nat → Nat → Encoder → Encoder
  | [], _, e => e
  | point :: rest, next, e =>
    let ready := { e with distance := e.distance + (point - next) * (e.placed + 1) }
    let after := label.foldl (Encoder.pass basic point) ready
    place label basic rest (point + 1) { after with distance := after.distance + 1 }

def encode (label : List Char) : List Char :=
  let basic := label.filter (·.toNat < 128)
  let points := ((label.filter (128 ≤ ·.toNat)).map Char.toNat).mergeSort.eraseDups
  let e := Encoder.place label basic.length points 128 { placed := basic.length }
  basic ++ (if basic.isEmpty then [] else ['-']) ++ e.written.reverse

/-- Read a number, adding it to `value`: the sum and the text after it. -/
def decodeNumber (bias : Nat) :
    (position weight value : Nat) → List Char → Option (Nat × List Char)
  | _, _, _, [] => none
  | position, weight, value, c :: rest =>
    match digitValue? c with
    | none => none
    | some d =>
      let t := threshold position bias
      if d < t then some (value + d * weight, rest)
      else decodeNumber bias (position + 36) (weight * (36 - t)) (value + d * weight) rest

theorem length_of_decodeNumber {bias position weight value : Nat} {text : List Char}
    {read : Nat × List Char} (h : decodeNumber bias position weight value text = some read) :
    read.2.length < text.length := by
  induction text generalizing position weight value with
  | nil => simp [decodeNumber] at h
  | cons c rest ih =>
    unfold decodeNumber at h
    split at h
    · simp at h
    · dsimp only at h
      split at h
      · simp only [Option.some.injEq] at h
        simp [← h]
      · have := ih h
        simp only [List.length_cons]
        omega

/-- Place the characters that the rest of the text names, from position `index` on. -/
def insertAll (placed : List Char) (point index bias : Nat) (first : Bool) (text : List Char) :
    Option (List Char) :=
  if text.isEmpty then some placed
  else
    match _read : decodeNumber bias 36 1 index text with
    | none => none
    | some (sum, rest) =>
      let count := placed.length + 1
      let point' := point + sum / count
      if point'.isValidChar then
        insertAll (placed.insertIdx (sum % count) (Char.ofNat point')) point' (sum % count + 1)
          (adapt (sum - index) count first) false rest
      else none
termination_by text.length
decreasing_by exact length_of_decodeNumber _read

/-- The label that a text in plain characters stands for. The last hyphen ends the characters that
stand for themselves. -/
def decode? (text : List Char) : Option (List Char) :=
  let tail := (text.reverse.takeWhile (· != '-')).reverse
  let basic := text.take (text.length - tail.length - 1)
  if basic.all (·.toNat < 128) then insertAll basic 128 0 72 true tail else none

end PluginRecovery.Punycode
