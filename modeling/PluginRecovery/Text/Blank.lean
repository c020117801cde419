/-!
White space, as Unicode's `White_Space` property fixes it, and the operations that cut a text at it:
trimming and splitting into words.
-/

set_option autoImplicit false
set_option relaxedAutoImplicit false

namespace PluginRecovery.Text

/-- The characters with the `White_Space` property. -/
def isBlank (c : Char) : Bool :=
  let n := c.toNat
  (9 ≤ n && n ≤ 13) || n == 0x20 || n == 0x85 || n == 0xA0 || n == 0x1680 ||
    (0x2000 ≤ n && n ≤ 0x200A) || n == 0x2028 || n == 0x2029 || n == 0x202F || n == 0x205F ||
    n == 0x3000

/-- Every character is white space; so in the empty text. -/
def blank (text : List Char) : Bool :=
  text.all isBlank

def trimStart (text : List Char) : List Char :=
  text.dropWhile isBlank

def trimEnd (text : List Char) : List Char :=
  (text.reverse.dropWhile isBlank).reverse

/-- The text without white space at either end. -/
def trim (text : List Char) : List Char :=
  trimEnd (trimStart text)

/-- The text's words: its maximal runs of characters other than white space. -/
def words (text : List Char) : List (List Char) :=
  (text.splitOnP isBlank).filter (!·.isEmpty)

end PluginRecovery.Text
