/-!
Sets of code points, and properties of code points, as ascending arrays of the places where they
change.
-/

set_option autoImplicit false
set_option relaxedAutoImplicit false

namespace PluginRecovery.Text

/-- The number of entries that are at most `n`, in an ascending array, when it is known to be at
least `low` and less than `low + Nat.pow 2 bits`. -/
def countUpTo (bounds : Array Nat) (n low : Nat) : (bits : Nat) → Nat
  | 0 => low
  | bits + 1 =>
    match bounds[low + Nat.pow 2 bits - 1]? with
    | some bound =>
      if bound ≤ n then countUpTo bounds n (low + Nat.pow 2 bits) bits
      else countUpTo bounds n low bits
    | none => countUpTo bounds n low bits

/-- The number of entries that are at most `n`, in an ascending array. -/
def rank (bounds : Array Nat) (n : Nat) : Nat :=
  countUpTo bounds n 0 (Nat.log2 bounds.size + 1)

/-- Whether a code point is within bounds that begin a range and follow one by turns. -/
def isWithin (bounds : Array Nat) (n : Nat) : Bool :=
  rank bounds n % 2 == 1

/-- The value of a code point, zero before the first entry. The last two hexadecimal digits of an
entry are the value from the code point on that the other digits are. -/
def valueAt (entries : Array Nat) (n : Nat) : Nat :=
  match rank entries (n * 256 + 255) with
  | 0 => 0
  | place + 1 => entries.getD place 0 % 256

end PluginRecovery.Text
