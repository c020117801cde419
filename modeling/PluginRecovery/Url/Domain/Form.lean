import PluginRecovery.Text.Bounds
import PluginRecovery.Text.Table
import PluginRecovery.Url.Domain.FormTable

/-!
What a character in the name of a host stands for: small letters for capital ones, plain characters
for their variants, a point for other full stops.
-/

set_option autoImplicit false
set_option relaxedAutoImplicit false

namespace PluginRecovery.Domain

open PluginRecovery.Text

/-- Characters from `first` to `last`, `step` apart, that stand for others. -/
structure FormRange where
  first : Nat
  last : Nat
  step : Nat
  /-- What the first character stands for. -/
  form : List Char

/-- Read the key of a range. -/
def FormRange.ofEntry (entry : List Char × List Char) : FormRange :=
  let (range, step) := entry.1.span (· != '/')
  let (first, last) := range.span (· != '-')
  { first := codeOf first
    last := if last.isEmpty then codeOf first else codeOf last.tail
    step := if step.isEmpty then 1 else codeOf step.tail
    form := entry.2 }

def formRanges : Array FormRange :=
  ((entriesOf formLines).map FormRange.ofEntry).toArray

def formStarts : Array Nat :=
  formRanges.map FormRange.first

/-- What a character stands for by a range, if it is in the range. -/
def FormRange.formOf? (range : FormRange) (n : Nat) : Option (List Char) :=
  if range.last < n || (n - range.first) % range.step != 0 then none
  else some (range.form.map fun c => Char.ofNat (c.toNat + (n - range.first)))

/-- What a character stands for; nothing if it cannot be written. -/
def formOf? (c : Char) : Option (List Char) :=
  let n := c.toNat
  if n < 128 then some [c.toLower]
  else if !isWithin writableBounds n then none
  else
    let range := match rank formStarts n with
      | 0 => none
      | place + 1 => formRanges[place]?
    some ((range.bind fun range => range.formOf? n).getD [c])

end PluginRecovery.Domain
