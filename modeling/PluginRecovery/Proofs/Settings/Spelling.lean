import Mathlib
import PluginRecovery.Proofs.Decimal.Numerals
import PluginRecovery.Proofs.Settings.Keys
import PluginRecovery.Proofs.Text.LetterCase
import PluginRecovery.Settings.Layers

/-!
What the text of a variable is taken for. A text may write a number (`WritesFloat`), and then it is
an integer when it writes one of sixty-four bits; the words for truth are booleans, in any case of
letters; any other text is itself. The four cases are `variableValue_of_truth`,
`variableValue_of_integer`, `variableValue_of_float` and `variableValue_of_text`. The words that
settings know are no numbers, because a number begins in other ways (`WritesFloat.numberLike`).

A text setting gets back as a text what the variable was taken for (`KeptAs`): a number is written
anew, without the signs and zeros that its variable may have had (`asText?_variableValue`).
-/

set_option autoImplicit false
set_option relaxedAutoImplicit false

namespace PluginRecovery.Settings

open PluginRecovery.Decimal PluginRecovery.Text
open Setting (lowered)

/-- A text writes a number of the environment: a numeral, or in any case of letters a word for
infinity or for no number, with a sign. -/
inductive WritesFloat : List Char → Float → Prop
  | infinity {sign word : List Char} {negative : Bool} (hsign : IsSign sign negative)
      (hword : word.map Char.toLower = "inf".toList ∨ word.map Char.toLower = "infinity".toList) :
      WritesFloat (sign ++ word) (if negative then -(1.0 / 0.0) else 1.0 / 0.0)
  | noNumber {sign word : List Char} {negative : Bool} (hsign : IsSign sign negative)
      (hword : word.map Char.toLower = "nan".toList) : WritesFloat (sign ++ word) (0.0 / 0.0)
  | numeral {text : List Char} {x : Float} (h : WritesDouble text x) : WritesFloat text x

theorem unsigned_of_map_toLower {word : List Char} {letter : Char} {rest : List Char}
    (h : word.map Char.toLower = letter :: rest) (hsmall : IsSmall letter) : Unsigned word := by
  obtain ⟨first, behind, rfl, rfl, -⟩ := List.map_eq_cons_iff.mp h
  refine .of_head (p := fun c ↦ IsSmall c.toLower) (by decide) (by decide) fun c hc ↦ ?_
  obtain rfl := Option.some.inj hc
  exact hsmall

theorem toNat_lt_of_isDigit_or_point {c : Char} (h : c.isDigit = true ∨ c = '.') :
    c.toNat < 'a'.toNat := by
  rcases h with hdigit | rfl
  · exact (Char.isDigit_iff_toNat.mp hdigit).2.trans_lt (by decide)
  · decide

/-- What a numeral may begin with has no other form in lower case. -/
theorem toLower_of_isDigit_or_point {c : Char} (h : c.isDigit = true ∨ c = '.') :
    c.toLower = c :=
  forall_of_ofNat (P := fun c ↦ c.isDigit = true ∨ c = '.' → c.toLower = c) (by decide)
    (toNat_lt_of_isDigit_or_point h) h

/-- A numeral is none of the words. -/
theorem map_toLower_ne_of_writesDecimal {text : List Char} {digits : ℕ} {exponent : ℤ}
    (h : WritesDecimal text digits exponent) {letter : Char} (hsmall : IsSmall letter)
    (word : List Char) : text.map Char.toLower ≠ letter :: word := by
  obtain ⟨first, rest, rfl, hfirst⟩ := h.exists_cons
  rw [List.map_cons, toLower_of_isDigit_or_point hfirst]
  intro heq
  obtain rfl := (List.cons.inj heq).1
  exact Nat.not_lt.mpr hsmall.1 (toNat_lt_of_isDigit_or_point hfirst)

/-- A text is taken for a float exactly if it spells that float in one of the ways listed. -/
theorem environmentFloat?_eq_some_iff {text : List Char} {x : Float} :
    environmentFloat? text = some x ↔ WritesFloat text x := by
  constructor
  · intro h
    obtain ⟨sign, hsign, htext⟩ := exists_sign_of_splitSign text
    unfold environmentFloat? at h
    dsimp only at h
    rw [htext]
    rcases ite_eq_iff.mp h with ⟨hword, h⟩ | ⟨-, h⟩
    · rw [← Option.some.inj h]
      exact .infinity hsign hword
    rcases ite_eq_iff.mp h with ⟨hword, h⟩ | ⟨-, h⟩
    · rw [← Option.some.inj h]
      exact .noNumber hsign hword
    · rw [← htext]
      exact .numeral (double?_eq_some_iff.mp h)
  · rintro (⟨hsign, hword⟩ | ⟨hsign, hword⟩ | h)
    · have hunsigned := hword.elim (unsigned_of_map_toLower · (by decide))
        (unsigned_of_map_toLower · (by decide))
      rw [environmentFloat?, splitSign_append hsign hunsigned]
      exact if_pos hword
    · rw [environmentFloat?, splitSign_append hsign (unsigned_of_map_toLower hword (by decide))]
      dsimp only
      rw [hword]
      rfl
    · have hdouble := double?_eq_some_iff.mpr h
      obtain ⟨hsign, hwrites⟩ := h
      have hno := @map_toLower_ne_of_writesDecimal _ _ _ hwrites
      rw [environmentFloat?, splitSign_append hsign hwrites.unsigned]
      refine (if_neg (not_or.mpr ⟨?_, ?_⟩)).trans ((if_neg ?_).trans hdouble)
      · exact hno (by decide) "nf".toList
      · exact hno (by decide) "nfinity".toList
      · exact hno (by decide) "an".toList

/-! ### What no number is -/

/-- A numeral may begin with the character. -/
def beginsNumeral (c : Char) : Bool :=
  c.isDigit || c == '+' || c == '-' || c == '.'

/-- A text in lower case is a word for a number or begins as a numeral does. -/
def NumberLike (text : List Char) : Prop :=
  text.head?.any beginsNumeral = true ∨ text ∈ ["inf".toList, "infinity".toList, "nan".toList]

instance : DecidablePred NumberLike :=
  fun _ ↦ inferInstanceAs (Decidable (_ ∨ _))

theorem numberLike_lower_sign_append {sign text : List Char} {negative : Bool}
    (hsign : IsSign sign negative) (htext : NumberLike (lower text)) :
    NumberLike (lower (sign ++ text)) := by
  cases hsign with
  | none => exact htext
  | plus => exact .inl rfl
  | minus => exact .inl rfl

/-- What spells a float is a word for a number or begins as a numeral does. -/
theorem WritesFloat.numberLike {text : List Char} {x : Float} (h : WritesFloat text x) :
    NumberLike (lower text) := by
  rcases h with ⟨hsign, hword⟩ | ⟨hsign, hword⟩ | ⟨hsign, hwrites⟩
  · refine numberLike_lower_sign_append hsign (.inr ?_)
    rcases hword with hword | hword
    · rw [lower_eq_of_map_toLower hword (by simp)]
      decide
    · rw [lower_eq_of_map_toLower hword (by simp)]
      decide
  · refine numberLike_lower_sign_append hsign (.inr ?_)
    rw [lower_eq_of_map_toLower hword (by simp)]
    decide
  · refine numberLike_lower_sign_append hsign (.inl ?_)
    obtain ⟨first, rest, rfl, hfirst⟩ := hwrites.exists_cons
    have hascii : first.toNat < 128 :=
      (toNat_lt_of_isDigit_or_point hfirst).trans (by decide)
    rw [lower_cons, lowerForm, if_pos hascii, toLower_of_isDigit_or_point hfirst]
    rcases hfirst with hdigit | rfl
    · simp [beginsNumeral, hdigit]
    · rfl

theorem numberLike_of_writesInt {text : List Char} {z : ℤ} (h : WritesInt text z) :
    NumberLike (lower text) := by
  obtain ⟨x, hx⟩ := h.exists_writesDouble
  exact (WritesFloat.numeral hx).numberLike

/-! ### What a variable is taken for -/

/-- A word for truth or falsehood is kept as a boolean. -/
theorem variableValue_of_truth {s : String} {b : Bool} (h : lowered s = toString b) :
    variableValue s = .bool b := by
  unfold variableValue
  rw [h]
  cases b <;> rfl

/-- The words for truth are no numbers. -/
theorem lowered_ne_of_numberLike {s : String} (h : NumberLike (lower s.toList)) {word : String}
    (hword : ¬ NumberLike word.toList) : lowered s ≠ word := by
  rintro rfl
  rw [lowered, String.toList_ofList] at hword
  exact hword h

/-- Any other text is tried as a whole number, then as a float, and is kept as it is if it spells
neither. -/
theorem variableValue_of_not_truth {s : String} (h : ∀ b : Bool, lowered s ≠ toString b) :
    variableValue s =
      match int64? s.toList with
      | some n => .int n
      | none =>
        match environmentFloat? s.toList with
        | some x => .float x
        | none => .text s := by
  unfold variableValue
  exact (if_neg (h true)).trans (if_neg (h false))

/-- A whole number that fits into 64 bits is kept as one. -/
theorem variableValue_of_integer {s : String} {z : ℤ} (h : WritesInt64 s.toList z) :
    variableValue s = .int z := by
  have hlike := numberLike_of_writesInt h.writes
  rw [variableValue_of_not_truth fun b ↦ lowered_ne_of_numberLike hlike (by cases b <;> decide),
    int64?_eq_some_iff.mpr h]

/-- What spells a float and no such whole number is kept as a float. -/
theorem variableValue_of_float {s : String} {x : Float} (hinteger : ∀ z, ¬ WritesInt64 s.toList z)
    (h : WritesFloat s.toList x) : variableValue s = .float x := by
  have hnone : int64? s.toList = none :=
    Option.eq_none_iff_forall_ne_some.mpr fun z hz ↦ hinteger z (int64?_eq_some_iff.mp hz)
  rw [variableValue_of_not_truth fun b ↦
    lowered_ne_of_numberLike h.numberLike (by cases b <;> decide), hnone,
    environmentFloat?_eq_some_iff.mpr h]

/-- A text that spells neither truth nor a number is kept as it is. -/
theorem variableValue_of_text {s : String} (htruth : ∀ b : Bool, lowered s ≠ toString b)
    (h : ∀ x, ¬ WritesFloat s.toList x) : variableValue s = .text s := by
  have hinteger : int64? s.toList = none := by
    refine Option.eq_none_iff_forall_ne_some.mpr fun z hz ↦ ?_
    obtain ⟨x, hx⟩ := (int64?_eq_some_iff.mp hz).writes.exists_writesDouble
    exact h x (.numeral hx)
  have hfloat : environmentFloat? s.toList = none :=
    Option.eq_none_iff_forall_ne_some.mpr fun x hx ↦ h x (environmentFloat?_eq_some_iff.mp hx)
  rw [variableValue_of_not_truth htruth, hinteger, hfloat]

/-- A word that is neither truth nor a number is taken for itself, in any case of letters. -/
theorem variableValue_of_word {s word : String} (h : lowered s = word)
    (htruth : ∀ b : Bool, word ≠ toString b) (hnumber : ¬ NumberLike word.toList) :
    variableValue s = .text s := by
  subst h
  refine variableValue_of_text htruth fun x hx ↦ hnumber ?_
  rw [lowered, String.toList_ofList]
  exact hx.numberLike

/-! ### Texts -/

/-- What a text setting keeps of the text of its variable. Truth and numbers are written anew. -/
inductive KeptAs (s : String) : String → Prop
  | truth {b : Bool} (h : lowered s = toString b) : KeptAs s (toString b)
  | integer {z : ℤ} (h : WritesInt64 s.toList z) : KeptAs s (toString z)
  | float {x : Float} (hinteger : ∀ z, ¬ WritesInt64 s.toList z) (h : WritesFloat s.toList x) :
      KeptAs s (ofDouble x).plain
  | text (htruth : ∀ b : Bool, lowered s ≠ toString b) (h : ∀ x, ¬ WritesFloat s.toList x) :
      KeptAs s s

/-- A text that is neither truth nor a number is kept as it is. -/
theorem keptAs_self {s : String} (htruth : ∀ b : Bool, lowered s ≠ toString b)
    (hnumber : ¬ NumberLike (lower s.toList)) : KeptAs s s :=
  .text htruth fun _ hx ↦ hnumber hx.numberLike

/-- A text setting has what is kept of the text of its variable. -/
theorem asText?_variableValue {s kept : String} (h : KeptAs s kept) :
    (variableValue s).asText? = some kept := by
  cases h with
  | truth h =>
    rename_i b
    rw [variableValue_of_truth h]
    cases b <;> rfl
  | integer h => rw [variableValue_of_integer h, Setting.asText?]
  | float hinteger h => rw [variableValue_of_float hinteger h, Setting.asText?]
  | text htruth h => rw [variableValue_of_text htruth h, Setting.asText?]

/-- Any text is kept in some way. -/
theorem exists_keptAs (s : String) : ∃ kept, KeptAs s kept := by
  by_cases htruth : ∃ b : Bool, lowered s = toString b
  · obtain ⟨b, hb⟩ := htruth
    exact ⟨_, .truth hb⟩
  by_cases hinteger : ∃ z, WritesInt64 s.toList z
  · obtain ⟨z, hz⟩ := hinteger
    exact ⟨_, .integer hz⟩
  by_cases hfloat : ∃ x, WritesFloat s.toList x
  · obtain ⟨x, hx⟩ := hfloat
    exact ⟨_, .float (not_exists.mp hinteger) hx⟩
  · exact ⟨s, .text (not_exists.mp htruth) (not_exists.mp hfloat)⟩

/-! ### Kinds of settings -/

/-- What becomes of a whole number as a count. From `2 ^ 63` up it is rounded to a double. -/
def countOf (n : ℕ) : ℕ :=
  if n < 2 ^ 63 then n else (nearestDouble n 0).round.toUInt64.toNat

/-- The words for a switch that is on, and for one that is off. -/
def switchWords : Bool → List String
  | true => ["true", "on", "yes"]
  | false => ["false", "off", "no"]

variable {α : Type}

/-- A variable with the text has a value of the kind. -/
def Kind.Spells : Kind α → String → α → Prop
  | count, s, x => ∃ n : ℕ, n < 2 ^ 64 ∧ WritesInt s.toList n ∧ x = countOf n
  | switch, s, b => s = (if b then "1" else "0") ∨ lowered s ∈ switchWords b
  | choice, s, strategy => lowered s = strategy.name
  | text, s, kept => KeptAs s kept

/-- A value of a file is of the kind. The files have no integers from `2 ^ 63` up; they are doubles
there. -/
def Kind.Holds : Kind α → Setting → α → Prop
  | count, value, x =>
    value = .int x ∨
      ∃ n, 2 ^ 63 ≤ n ∧ n < 2 ^ 64 ∧ value = .float (nearestDouble n 0) ∧ x = countOf n
  | switch, value, b => value = .bool b
  | choice, value, strategy => ∃ name, value = .text name ∧ lowered name = strategy.name
  | text, value, s => value = .text s

/-- A count is what its numeral writes, rounded from 2 ^ 63 up. -/
theorem asNatural?_variableValue {s : String} {n : ℕ} (h : WritesInt s.toList n) :
    (variableValue s).asNatural? = some (countOf n) := by
  rw [countOf]
  split_ifs with hn
  · rw [variableValue_of_integer ⟨h, by omega, by omega⟩, Setting.asNatural?,
      if_pos (Int.natCast_nonneg n), Int.toNat_natCast]
  · have hwide : ∀ z, ¬ WritesInt64 s.toList z := by
      intro z hz
      obtain rfl := h.unique hz.writes
      have hhigh := hz.high
      omega
    rw [variableValue_of_float hwide (.numeral (h.writesDouble (by omega))), Setting.asNatural?]

theorem asBool?_text {s : String} {b : Bool} (h : lowered s ∈ switchWords b) :
    (Setting.text s).asBool? = some b := by
  have hwords : ∀ word ∈ switchWords b,
      (if ["1", "true", "on", "yes"].contains word then some true
        else if ["0", "false", "off", "no"].contains word then some false else none) = some b := by
    cases b <;> decide
  exact hwords _ h

/-- Of the words for a switch those that are not the word for truth are plain texts. -/
theorem switchWords_plain (b : Bool) : ∀ word ∈ switchWords b, word ≠ toString b →
    (∀ other : Bool, word ≠ toString other) ∧ ¬ NumberLike word.toList := by
  cases b <;> decide

/-- A switch is what its variable spells. -/
theorem asBool?_variableValue {s : String} {b : Bool} (h : Kind.switch.Spells s b) :
    (variableValue s).asBool? = some b := by
  rcases h with rfl | hword
  · cases b <;> cbv
  by_cases htruth : lowered s = toString b
  · rw [variableValue_of_truth htruth, Setting.asBool?]
  · obtain ⟨hplain, hnumber⟩ := switchWords_plain b _ hword htruth
    rw [variableValue_of_word rfl hplain hnumber, asBool?_text hword]

theorem strategyOf?_text {s : String} {strategy : Strategy} (h : lowered s = strategy.name) :
    strategyOf? (.text s) = some strategy := by
  change Strategy.ofName? (lowered s) = some strategy
  rw [h]
  cases strategy <;> rfl

/-- A strategy is read from its name in any mixture of capital and small letters. -/
theorem strategyOf?_variableValue {s : String} {strategy : Strategy}
    (h : lowered s = strategy.name) : strategyOf? (variableValue s) = some strategy := by
  rw [variableValue_of_word h, strategyOf?_text h]
  · intro b
    cases b <;> cases strategy <;> decide
  · cases strategy <;> decide

/-- A variable is read as the value that it spells. -/
theorem Kind.read?_variableValue {kind : Kind α} {s : String} {x : α} (h : kind.Spells s x) :
    kind.read? (variableValue s) = some x := by
  cases kind with
  | count =>
    obtain ⟨n, -, hn, rfl⟩ := h
    exact asNatural?_variableValue hn
  | switch => exact asBool?_variableValue h
  | choice => exact strategyOf?_variableValue h
  | text => exact asText?_variableValue h

/-- A value of a file is read as what it holds. -/
theorem Kind.read?_of_holds {kind : Kind α} {value : Setting} {x : α} (h : kind.Holds value x) :
    kind.read? value = some x := by
  cases kind with
  | count =>
    rcases h with rfl | ⟨n, hlow, -, rfl, rfl⟩
    · rw [read?, Setting.asNatural?, if_pos (Int.natCast_nonneg x), Int.toNat_natCast]
    · rw [countOf, if_neg (Nat.not_lt.mpr hlow)]
      rfl
  | switch =>
    obtain rfl := h
    rfl
  | choice =>
    obtain ⟨name, rfl, hname⟩ := h
    exact strategyOf?_text hname
  | text =>
    obtain rfl := h
    rfl

end PluginRecovery.Settings
