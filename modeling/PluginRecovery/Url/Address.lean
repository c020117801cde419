/-!
Numeric hosts: addresses of four bytes in dotted notation, whose parts may be decimal, octal or
hexadecimal and of which the last may stand for several bytes, and addresses of eight pieces in
colon notation.
-/

set_option autoImplicit false
set_option relaxedAutoImplicit false

namespace PluginRecovery.Address

/-- The value of a digit in a base up to sixteen. -/
def digitValue? (base : Nat) (c : Char) : Option Nat :=
  let value? :=
    if '0' ≤ c && c ≤ '9' then some (c.toNat - '0'.toNat)
    else if 'a' ≤ c && c ≤ 'f' then some (c.toNat - 'a'.toNat + 10)
    else if 'A' ≤ c && c ≤ 'F' then some (c.toNat - 'A'.toNat + 10)
    else none
  value?.filter (· < base)

/-- The value of digits in a base, zero for none. -/
def digitsValue? (base : Nat) (digits : List Char) : Option Nat :=
  digits.foldlM (fun value c => return value * base + (← digitValue? base c)) 0

/-- A part of a dotted address: `0x` begins a hexadecimal number and `0` an octal one. -/
def partValue? : List Char → Option Nat
  | [] => none
  | '0' :: 'x' :: digits | '0' :: 'X' :: digits => digitsValue? 16 digits
  | '0' :: c :: digits => digitsValue? 8 (c :: digits)
  | digits => digitsValue? 10 digits

def parts (host : List Char) : List (List Char) :=
  match host.splitOn '.' with
  | [single] => [single]
  | several => if several.getLast? == some [] then several.dropLast else several

/-- Whether a host is to be read as a dotted address: its last part is a number. -/
def endsInNumber (host : List Char) : Bool :=
  match (parts host).getLast? with
  | none => false
  | some last => (!last.isEmpty && last.all Char.isDigit) || (partValue? last).isSome

/-- The value of parts of which each takes one byte, the last all that are left. -/
def combine? (room : Nat) : List Nat → Option Nat
  | [] => none
  | [last] => if last < Nat.pow 256 room then some last else none
  | value :: rest =>
    match room with
    | 0 => none
    | room + 1 =>
      if value < 256 then (combine? room rest).map (value * Nat.pow 256 room + ·) else none

/-- The address that a dotted notation stands for. -/
def ipv4? (host : List Char) : Option Nat := do
  let values ← (parts host).mapM partValue?
  if values.length ≤ 4 then combine? 4 values else none

def ipv4Text (address : Nat) : String :=
  ".".intercalate ([3, 2, 1, 0].map fun place => toString (address / Nat.pow 256 place % 256))

/-- A decimal number below 256 without a leading zero. -/
def byte? : List Char → Option Nat
  | [] => none
  | ['0'] => some 0
  | '0' :: _ => none
  | digits => (digitsValue? 10 digits).filter (· < 256)

/-- The pieces that a dotted address at the end stands for: exactly four bytes. -/
def dottedPieces? (text : List Char) : Option (List Nat) := do
  match ← (text.splitOn '.').mapM byte? with
  | [a, b, c, d] => some [a * 256 + b, c * 256 + d]
  | _ => none

/-- One to four hexadecimal digits. -/
def piece? (text : List Char) : Option Nat :=
  if text.isEmpty || 4 < text.length then none else digitsValue? 16 text

/-- The pieces of groups between colons; the last group may be dotted when `final`. -/
def pieces? (final : Bool) : List (List Char) → Option (List Nat)
  | [] => some []
  | [last] => if final && last.contains '.' then dottedPieces? last else (piece? last).map ([·])
  | group :: rest => do return (← piece? group) :: (← pieces? final rest)

/-- The groups between the colons of a text, none for an empty text. -/
def groups (text : List Char) : List (List Char) :=
  if text.isEmpty then [] else text.splitOn ':'

/-- The parts before and after the first double colon. -/
def splitAtGap : List Char → Option (List Char × List Char)
  | [] => none
  | ':' :: ':' :: rest => some ([], rest)
  | c :: rest => (splitAtGap rest).map fun (before, after) => (c :: before, after)

/-- The address that a colon notation stands for. A double colon stands for the zeros that are
missing, at least one. -/
def ipv6? (text : List Char) : Option (List Nat) :=
  match splitAtGap text with
  | none => (pieces? true (groups text)).filter (·.length == 8)
  | some (before, after) => do
    let left ← pieces? false (groups before)
    let right ← pieces? true (groups after)
    let given := left.length + right.length
    if given < 8 then some (left ++ List.replicate (8 - given) 0 ++ right) else none

/-- The start and length of the first longest run of zeros, of two at least. -/
def longestZeros (pieces : List Nat) : Option (Nat × Nat) :=
  let runs := (List.range pieces.length).map fun start =>
    (start, ((pieces.drop start).takeWhile (· == 0)).length)
  let longest := runs.foldl (fun best run => if best.2 < run.2 then run else best) (0, 1)
  if longest.2 < 2 then none else some longest

def piecesText (pieces : List Nat) : String :=
  ":".intercalate (pieces.map fun piece => String.ofList (Nat.toDigits 16 piece))

/-- An address in colon notation, its longest run of zeros left out. -/
def ipv6Text (pieces : List Nat) : String :=
  match longestZeros pieces with
  | none => piecesText pieces
  | some (start, count) =>
    piecesText (pieces.take start) ++ "::" ++ piecesText (pieces.drop (start + count))

end PluginRecovery.Address
