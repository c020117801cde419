import Mathlib
import PluginRecovery.Proofs.Decimal.Integer

/-!
What a numeral writes, apart from how it is read. A sign (`IsSign`) and a row of digits
(`WritesNat`) write a whole number (`WritesInt`); digits with at most one point among them and an
exponent behind write a decimal number (`WritesDecimal`), and with a sign the double nearest to it
(`WritesDouble`). `int64?_eq_some_iff` says that the reader of whole numbers knows exactly those of
sixty-four bits, and `double?_eq_some_iff` that the reader of doubles gives what is written. A whole
number that is too wide for the first reader is left to the second (`WritesInt.writesDouble`).
-/

set_option autoImplicit false
set_option relaxedAutoImplicit false

namespace PluginRecovery.Decimal

/-! ### Numerals -/

/-- A nonempty row of digits writes a number. -/
structure WritesNat (digits : List Char) (n : ℕ) : Prop where
  ne_nil : digits ≠ []
  isDigit : ∀ c ∈ digits, c.isDigit
  value : Nat.ofDigitChars 10 digits 0 = n

/-- A sign, which may be left out, and whether it makes a number negative. -/
inductive IsSign : List Char → Bool → Prop
  | none : IsSign [] false
  | plus : IsSign ['+'] false
  | minus : IsSign ['-'] true

/-- A sign and digits write a whole number. -/
inductive WritesInt : List Char → ℤ → Prop
  | intro {sign digits : List Char} {negative : Bool} {n : ℕ} (hsign : IsSign sign negative)
      (hdigits : WritesNat digits n) : WritesInt (sign ++ digits) (if negative then -n else n)

/-- A text writes a whole number of sixty-four bits. -/
structure WritesInt64 (text : List Char) (z : ℤ) : Prop where
  writes : WritesInt text z
  low : -2 ^ 63 ≤ z
  high : z < 2 ^ 63

/-- What stands behind the digits of the whole part, and the digits in it. -/
inductive IsFraction : List Char → List Char → Prop
  | none : IsFraction [] []
  | point {digits : List Char} (hdigits : ∀ c ∈ digits, c.isDigit) :
      IsFraction ('.' :: digits) digits

/-- What stands at the end of a numeral, and the exponent that it writes. -/
inductive IsExponent : List Char → ℤ → Prop
  | none : IsExponent [] 0
  | marked {mark : Char} {text : List Char} {exponent : ℤ} (hmark : mark = 'e' ∨ mark = 'E')
      (htext : WritesInt text exponent) : IsExponent (mark :: text) exponent

/-- A numeral without a sign writes `digits * 10 ^ exponent`. -/
inductive WritesDecimal : List Char → ℕ → ℤ → Prop
  | intro {whole fraction digits behind : List Char} {exponent : ℤ}
      (hwhole : ∀ c ∈ whole, c.isDigit) (hfraction : IsFraction fraction digits)
      (hbehind : IsExponent behind exponent) (hne : whole ++ digits ≠ []) :
      WritesDecimal (whole ++ (fraction ++ behind)) (Nat.ofDigitChars 10 (whole ++ digits) 0)
        (exponent - digits.length)

/-- A numeral writes a double: the one nearest to the number, with its sign. -/
inductive WritesDouble : List Char → Float → Prop
  | intro {sign unsigned : List Char} {negative : Bool} {digits : ℕ} {exponent : ℤ}
      (hsign : IsSign sign negative) (hunsigned : WritesDecimal unsigned digits exponent) :
      WritesDouble (sign ++ unsigned)
        (if negative then -nearestDouble digits exponent else nearestDouble digits exponent)

/-! ### Whole numbers -/

/-- The reader of digits knows exactly the rows that write a number. -/
theorem natural?_eq_some_iff {digits : List Char} {n : ℕ} :
    natural? digits = some n ↔ WritesNat digits n := by
  rw [natural?, natOfDigits_eq_ofDigitChars]
  constructor
  · intro h
    split_ifs at h with hdigits
    rw [Bool.or_eq_true, Bool.not_eq_true', List.isEmpty_iff, not_or, Bool.not_eq_false] at hdigits
    exact ⟨hdigits.1, List.all_eq_true.mp hdigits.2, Option.some.inj h⟩
  · rintro ⟨hne, hdigits, rfl⟩
    have hall : digits.all Char.isDigit = true := List.all_eq_true.mpr hdigits
    rw [List.isEmpty_eq_false_iff.mpr hne, hall]
    rfl

/-- A text without a sign in front. -/
def Unsigned (text : List Char) : Prop :=
  ∀ c ∈ text.head?, c ≠ '-' ∧ c ≠ '+'

theorem Unsigned.of_head {text : List Char} {p : Char → Prop} (hminus : ¬ p '-') (hplus : ¬ p '+')
    (h : ∀ c ∈ text.head?, p c) : Unsigned text := by
  intro c hc
  constructor
  · rintro rfl
    exact hminus (h _ hc)
  · rintro rfl
    exact hplus (h _ hc)

theorem splitSign_of_unsigned {text : List Char} (h : Unsigned text) :
    splitSign text = (false, text) := by
  unfold splitSign
  split
  · exact absurd rfl (h '-' rfl).1
  · exact absurd rfl (h '+' rfl).2
  · rfl

/-- What is split off is the sign. -/
theorem splitSign_append {sign text : List Char} {negative : Bool} (hsign : IsSign sign negative)
    (htext : Unsigned text) : splitSign (sign ++ text) = (negative, text) := by
  cases hsign with
  | none => exact splitSign_of_unsigned htext
  | plus => rfl
  | minus => rfl

/-- What stands before the rest is a sign, written or not. -/
theorem exists_sign_of_splitSign (text : List Char) :
    ∃ sign, IsSign sign (splitSign text).1 ∧ text = sign ++ (splitSign text).2 := by
  unfold splitSign
  split
  · exact ⟨['-'], .minus, rfl⟩
  · exact ⟨['+'], .plus, rfl⟩
  · exact ⟨[], .none, rfl⟩

theorem unsigned_of_isDigit {text : List Char} (h : ∀ c ∈ text, c.isDigit) : Unsigned text :=
  .of_head (by decide) (by decide) fun c hc ↦ h c (List.mem_of_mem_head? hc)

/-- The reader of signs and digits knows exactly the numerals of whole numbers. -/
theorem integer?_eq_some_iff {text : List Char} {z : ℤ} :
    integer? text = some z ↔ WritesInt text z := by
  rw [integer?, Option.map_eq_some_iff]
  constructor
  · rintro ⟨n, hn, rfl⟩
    obtain ⟨sign, hsign, htext⟩ := exists_sign_of_splitSign text
    have hwrites := WritesInt.intro hsign (natural?_eq_some_iff.mp hn)
    rwa [← htext] at hwrites
  · rintro ⟨hsign, hdigits⟩
    rw [splitSign_append hsign (unsigned_of_isDigit hdigits.isDigit)]
    exact ⟨_, natural?_eq_some_iff.mpr hdigits, rfl⟩

/-- A text writes one whole number at most. -/
theorem WritesInt.unique {text : List Char} {y z : ℤ} (hy : WritesInt text y)
    (hz : WritesInt text z) : y = z :=
  Option.some.inj ((integer?_eq_some_iff.mpr hy).symm.trans (integer?_eq_some_iff.mpr hz))

/-- The reader of whole numbers knows those of sixty-four bits. -/
theorem int64?_eq_some_iff {text : List Char} {z : ℤ} :
    int64? text = some z ↔ WritesInt64 text z := by
  rw [int64?, Option.filter_eq_some_iff, integer?_eq_some_iff, decide_eq_true_eq]
  constructor
  · rintro ⟨hwrites, hlow, hhigh⟩
    exact ⟨hwrites, hlow, hhigh⟩
  · rintro ⟨hwrites, hlow, hhigh⟩
    exact ⟨hwrites, hlow, hhigh⟩

/-! ### Doubles -/

/-- The reader of exponents knows exactly what may end a numeral. -/
theorem exponent?_eq_some_iff {text : List Char} {z : ℤ} :
    exponent? text = some z ↔ IsExponent text z := by
  cases text with
  | nil =>
    rw [exponent?, Option.some.injEq]
    constructor
    · rintro rfl
      exact .none
    · rintro ⟨⟩
      rfl
  | cons mark text =>
    rw [exponent?, Option.ite_none_right_eq_some, integer?_eq_some_iff, Bool.or_eq_true,
      beq_iff_eq, beq_iff_eq]
    constructor
    · rintro ⟨hmark, htext⟩
      exact .marked hmark htext
    · rintro (_ | ⟨hmark, htext⟩)
      exact ⟨hmark, htext⟩

/-- The exponent does not go on with the digits before it. -/
theorem IsExponent.head {text : List Char} {z : ℤ} (h : IsExponent text z) :
    ∀ c ∈ text.head?, c.isDigit = false ∧ c ≠ '.' := by
  cases h with
  | none => exact fun c hc ↦ absurd hc (by simp)
  | marked hmark htext =>
    intro c hc
    obtain rfl := Option.some.inj hc
    rcases hmark with rfl | rfl <;> decide

theorem takeWhile_isDigit_append {digits behind : List Char} (hdigits : ∀ c ∈ digits, c.isDigit)
    (hbehind : ∀ c ∈ behind.head?, c.isDigit = false) :
    (digits ++ behind).takeWhile Char.isDigit = digits := by
  rw [List.takeWhile_append_of_pos hdigits]
  cases behind with
  | nil => exact List.append_nil digits
  | cons c behind =>
    rw [List.takeWhile_cons_of_neg (by simp [hbehind c rfl]), List.append_nil]

theorem dropWhile_isDigit_append {digits behind : List Char} (hdigits : ∀ c ∈ digits, c.isDigit)
    (hbehind : ∀ c ∈ behind.head?, c.isDigit = false) :
    (digits ++ behind).dropWhile Char.isDigit = behind := by
  rw [List.dropWhile_append_of_pos hdigits]
  cases behind with
  | nil => rfl
  | cons c behind => rw [List.dropWhile_cons_of_neg (by simp [hbehind c rfl])]

/-- What is split off is the fraction. -/
theorem splitFraction_append {fraction digits behind : List Char} {z : ℤ}
    (hfraction : IsFraction fraction digits) (hbehind : IsExponent behind z) :
    splitFraction (fraction ++ behind) = (digits, behind) := by
  cases hfraction with
  | none =>
    rw [List.nil_append]
    unfold splitFraction
    split
    · exact absurd rfl (hbehind.head '.' rfl).2
    · rfl
  | point hdigits =>
    have hhead := fun c hc ↦ (hbehind.head c hc).1
    rw [List.cons_append, splitFraction, takeWhile_isDigit_append hdigits hhead,
      dropWhile_isDigit_append hdigits hhead]

/-- What stands before the rest is a fraction, written or not. -/
theorem exists_fraction_of_splitFraction (text : List Char) :
    ∃ fraction, IsFraction fraction (splitFraction text).1 ∧
      text = fraction ++ (splitFraction text).2 := by
  unfold splitFraction
  split
  · next rest =>
    refine ⟨'.' :: rest.takeWhile Char.isDigit, .point fun c hc ↦ List.mem_takeWhile_imp hc, ?_⟩
    rw [List.cons_append, List.takeWhile_append_dropWhile]
  · exact ⟨[], .none, rfl⟩

/-- Behind the whole part the digits end. -/
theorem IsFraction.head_append {fraction digits behind : List Char} {z : ℤ}
    (hfraction : IsFraction fraction digits) (hbehind : IsExponent behind z) :
    ∀ c ∈ (fraction ++ behind).head?, c.isDigit = false := by
  cases hfraction with
  | none => exact fun c hc ↦ (hbehind.head c hc).1
  | point hdigits =>
    intro c hc
    obtain rfl := Option.some.inj hc
    decide

/-- A numeral without a sign begins with a digit or a point. -/
theorem WritesDecimal.exists_cons {text : List Char} {digits : ℕ} {exponent : ℤ}
    (h : WritesDecimal text digits exponent) :
    ∃ c rest, text = c :: rest ∧ (c.isDigit = true ∨ c = '.') := by
  obtain @⟨whole, fraction, digits, behind, exponent, hwhole, hfraction, hbehind, hne⟩ := h
  cases whole with
  | cons c whole => exact ⟨c, _, rfl, .inl (hwhole c List.mem_cons_self)⟩
  | nil =>
    cases hfraction with
    | none => exact absurd rfl hne
    | point hdigits => exact ⟨'.', _, rfl, .inr rfl⟩

theorem WritesDecimal.unsigned {text : List Char} {digits : ℕ} {exponent : ℤ}
    (h : WritesDecimal text digits exponent) : Unsigned text := by
  obtain ⟨first, rest, rfl, hfirst⟩ := h.exists_cons
  refine .of_head (p := fun c ↦ c.isDigit = true ∨ c = '.') (by decide) (by decide) fun c hc ↦ ?_
  obtain rfl := Option.some.inj hc
  exact hfirst

/-- The reader of doubles gives the double that a numeral writes. -/
theorem double?_eq_some_iff {text : List Char} {x : Float} :
    double? text = some x ↔ WritesDouble text x := by
  constructor
  · intro h
    obtain ⟨sign, hsign, htext⟩ := exists_sign_of_splitSign text
    obtain ⟨fraction, hfraction, hrest⟩ :=
      exists_fraction_of_splitFraction ((splitSign text).2.dropWhile Char.isDigit)
    unfold double? at h
    dsimp only at h
    rw [Option.ite_none_left_eq_some] at h
    obtain ⟨hempty, h⟩ := h
    split at h
    · exact absurd h (by simp)
    · next exponent hexponent =>
      have hne : (splitSign text).2.takeWhile Char.isDigit ++
          (splitFraction ((splitSign text).2.dropWhile Char.isDigit)).1 ≠ [] := by
        intro hnil
        obtain ⟨hwhole, hdigits⟩ := List.append_eq_nil_iff.mp hnil
        exact hempty (by rw [hwhole, hdigits]; rfl)
      have hwrites := WritesDecimal.intro (fun c hc ↦ List.mem_takeWhile_imp hc) hfraction
        (exponent?_eq_some_iff.mp hexponent) hne
      rw [← hrest, List.takeWhile_append_dropWhile, ← natOfDigits_eq_ofDigitChars] at hwrites
      rw [htext, ← Option.some.inj h]
      exact .intro hsign hwrites
  · rintro ⟨hsign, hwrites⟩
    have hsplit := splitSign_append hsign hwrites.unsigned
    obtain @⟨whole, fraction, digits, behind, exponent, hwhole, hfraction, hbehind, hne⟩ := hwrites
    have hhead := hfraction.head_append hbehind
    have hempty : ¬ (whole.isEmpty && digits.isEmpty) = true := by
      rwa [Bool.and_eq_true, List.isEmpty_iff, List.isEmpty_iff, ← List.append_eq_nil_iff]
    rw [double?, hsplit]
    simp only [takeWhile_isDigit_append hwhole hhead, dropWhile_isDigit_append hwhole hhead,
      splitFraction_append hfraction hbehind, exponent?_eq_some_iff.mpr hbehind,
      natOfDigits_eq_ofDigitChars, if_neg hempty]

/-- Digits alone are a numeral of exponent zero. -/
theorem WritesNat.writesDecimal {digits : List Char} {n : ℕ} (h : WritesNat digits n) :
    WritesDecimal digits n 0 := by
  obtain ⟨hne, hdigits, rfl⟩ := h
  have hwrites := WritesDecimal.intro hdigits .none .none (by rwa [List.append_nil])
  simpa only [List.append_nil, List.length_nil, Nat.cast_zero, sub_zero] using hwrites

theorem WritesInt.exists_writesDouble {text : List Char} {z : ℤ} (h : WritesInt text z) :
    ∃ x, WritesDouble text x := by
  obtain ⟨hsign, hdigits⟩ := h
  exact ⟨_, .intro hsign hdigits.writesDecimal⟩

/-- A positive whole number, wide or not, writes the double nearest to it. -/
theorem WritesInt.writesDouble {text : List Char} {n : ℕ} (h : WritesInt text n) (hn : 0 < n) :
    WritesDouble text (nearestDouble n 0) := by
  generalize hz : (n : ℤ) = z at h
  obtain @⟨sign, digits, negative, m, hsign, hdigits⟩ := h
  cases negative with
  | true =>
    rw [if_pos rfl] at hz
    omega
  | false =>
    obtain rfl : n = m := Int.ofNat.inj hz
    exact .intro hsign hdigits.writesDecimal

end PluginRecovery.Decimal
