/-!
Tables written as lines of entries with blanks between them. An entry is a key, an equals sign, and
the code points that the key stands for, in hexadecimal digits and with commas between them.
-/

set_option autoImplicit false
set_option relaxedAutoImplicit false

namespace PluginRecovery.Text

/-- The number that hexadecimal digits in upper case write. -/
def codeOf (digits : List Char) : Nat :=
  digits.foldl (fun value c =>
    value * 16 + (if c.isDigit then c.toNat - '0'.toNat else c.toNat - 'A'.toNat + 10)) 0

/-- The characters of code points with commas between them. -/
def charactersOf (codes : List Char) : List Char :=
  if codes.isEmpty then [] else (codes.splitOn ',').map fun digits => Char.ofNat (codeOf digits)

/-- The key of an entry and what it stands for. -/
def entryOf (entry : List Char) : List Char × List Char :=
  let key := entry.takeWhile (· != '=')
  (key, charactersOf (entry.drop (key.length + 1)))

/-- The entries of lines. -/
def entriesOf (lines : List String) : List (List Char × List Char) :=
  lines.flatMap fun line => (line.toList.splitOn ' ').map entryOf

end PluginRecovery.Text
