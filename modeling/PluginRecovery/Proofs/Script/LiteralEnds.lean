import Mathlib
import PluginRecovery.Proofs.Script.Splitting

/-!
Where a literal ends, seen by the three scanners. The removal of comments skips the byte behind each
backslash, the search for a brace and the splitter look back over the backslashes before a quote. To
look back is to skip: a byte is escaped exactly if a backslash stands before it that is not escaped
itself (`isEscaped_succ`). So behind a quote all three are within its literal up to the first later
quote of the same kind that is not escaped, or up to the end of the text (`IsLiteralEnd.scansTo`),
and out of it behind that quote (`IsLiteralEnd.scansTo_closed`). `literals_end_alike` puts this
together.
-/

set_option autoImplicit false
set_option relaxedAutoImplicit false

namespace PluginRecovery.Script

open PluginRecovery.Text

variable {data : List UInt8} {quote b : UInt8} {start stop index : ℕ}

/-! ### Looking back -/

/-- Whether the byte at an index is escaped depends on the bytes before it only. -/
theorem isEscaped_of_le (h : index ≤ data.length) :
    isEscaped data index = escapedAfter (data.take index).reverse := by
  rw [isEscaped, decide_eq_true h, Bool.true_and]

theorem isEscaped_zero (data : List UInt8) : isEscaped data 0 = false :=
  isEscaped_of_le (Nat.zero_le data.length)

theorem isEscaped_of_lt (h : data.length < index) : isEscaped data index = false := by
  rw [isEscaped, decide_eq_false (Nat.not_le.mpr h), Bool.false_and]

theorem reverse_take_succ (h : data[index]? = some b) :
    (data.take (index + 1)).reverse = b :: (data.take index).reverse := by
  rw [List.take_add_one, h, List.reverse_append]
  rfl

/-- A byte is escaped if a backslash stands before it that is not. -/
theorem isEscaped_succ (h : data[index]? = some b) :
    isEscaped data (index + 1) = (isBackslash b && !isEscaped data index) := by
  obtain ⟨hlt, -⟩ := List.getElem?_eq_some_iff.mp h
  rw [isEscaped_of_le hlt, isEscaped_of_le hlt.le, reverse_take_succ h, escapedAfter_cons]

/-- A byte is escaped exactly if a backslash comes right before it that is not escaped itself. -/
theorem isEscaped_succ_iff (h : index < data.length) :
    isEscaped data (index + 1) = true ↔
      data[index]? = some '\\'.toUInt8 ∧ isEscaped data index = false := by
  have hbyte := List.getElem?_eq_getElem h
  rw [isEscaped_succ hbyte, hbyte]
  simp [isBackslash]

theorem isBackslash_of_isQuote (h : isQuote quote = true) : isBackslash quote = false := by
  rw [isQuote, Bool.or_eq_true, Bool.or_eq_true, beq_iff_eq, beq_iff_eq, beq_iff_eq] at h
  obtain (rfl | rfl) | rfl := h <;> decide

/-- No quote escapes what follows it. -/
theorem isEscaped_succ_of_isQuote (h : data[start]? = some quote) (hquote : isQuote quote = true) :
    isEscaped data (start + 1) = false := by
  rw [isEscaped_succ h, isBackslash_of_isQuote hquote, Bool.false_and]

/-- What escapes a byte behind a quote stands behind the quote too. -/
theorem exists_backslash_of_isEscaped (hquote : isQuote quote = true)
    (hstart : data[start]? = some quote) (hlt : start < index) (hle : index ≤ data.length)
    (hescaped : isEscaped data index = true) :
    ∃ k, index = k + 1 ∧ start < k ∧ data[k]? = some '\\'.toUInt8 ∧ isEscaped data k = false := by
  obtain ⟨k, rfl⟩ := Nat.exists_eq_add_one_of_ne_zero (Nat.ne_zero_of_lt hlt)
  refine ⟨k, rfl, (Nat.le_of_lt_succ hlt).lt_of_ne ?_, (isEscaped_succ_iff hle).mp hescaped⟩
  rintro rfl
  rw [isEscaped_succ_of_isQuote hstart hquote] at hescaped
  exact Bool.false_ne_true hescaped

/-! ### The end of a literal -/

/-- At the index stands the quote, and it is not escaped. -/
def ClosesAt (data : List UInt8) (quote : UInt8) (index : ℕ) : Prop :=
  data[index]? = some quote ∧ isEscaped data index = false

instance (data : List UInt8) (quote : UInt8) : DecidablePred (ClosesAt data quote) :=
  fun _ ↦ inferInstanceAs (Decidable (_ ∧ _))

/-- The literal that the quote at `start` opens is closed at `stop`, and not before, or ends there
with the text. -/
structure IsLiteralEnd (data : List UInt8) (quote : UInt8) (start stop : ℕ) : Prop where
  lt : start < stop
  le : stop ≤ data.length
  first : ∀ index < stop, start < index → ¬ ClosesAt data quote index
  closes : stop < data.length → ClosesAt data quote stop

/-- A literal has one end. -/
theorem IsLiteralEnd.unique {stop' : ℕ} (h : IsLiteralEnd data quote start stop)
    (h' : IsLiteralEnd data quote start stop') : stop' = stop := by
  rcases Nat.lt_trichotomy stop' stop with hlt | heq | hlt
  · exact absurd (h'.closes (hlt.trans_le h.le)) (h.first stop' hlt h'.lt)
  · exact heq
  · exact absurd (h.closes (hlt.trans_le h'.le)) (h'.first stop hlt h.lt)

/-- Every literal has an end, at the latest behind the last byte. -/
theorem exists_isLiteralEnd (h : start < data.length) (quote : UInt8) :
    ∃ stop, IsLiteralEnd data quote start stop := by
  have hend : ∃ stop, start < stop ∧ (data.length ≤ stop ∨ ClosesAt data quote stop) :=
    ⟨data.length, h, .inl le_rfl⟩
  refine ⟨Nat.find hend, (Nat.find_spec hend).1, Nat.find_min' hend ⟨h, .inl le_rfl⟩, ?_, ?_⟩
  · exact fun index hlt hindex hcloses ↦ Nat.find_min hend hlt ⟨hindex, .inr hcloses⟩
  · exact fun hlt ↦ (Nat.find_spec hend).2.resolve_left (Nat.not_le.mpr hlt)

/-! ### The scanners within a literal -/

/-- The bytes behind the quote at `start`, up to the index. -/
def literalBytes (data : List UInt8) (start index : ℕ) : List UInt8 :=
  (data.take index).drop (start + 1)

@[simp] theorem literalBytes_self (data : List UInt8) (start : ℕ) :
    literalBytes data start (start + 1) = [] :=
  List.drop_eq_nil_of_le (List.length_take_le _ _)

theorem literalBytes_succ (h : data[index]? = some b) (hlt : start < index) :
    literalBytes data start (index + 1) = literalBytes data start index ++ [b] := by
  obtain ⟨hlength, -⟩ := List.getElem?_eq_some_iff.mp h
  have hle : start + 1 ≤ (data.take index).length := by
    rw [List.length_take_of_le hlength.le]
    exact hlt
  rw [literalBytes, List.take_add_one, h, List.drop_append_of_le_length hle]
  rfl

/-- The mode of the removal of comments in a literal, and outside of one. -/
def literalMode : Option UInt8 → Mode
  | none => .code
  | some quote => .quoted quote

/-- From right behind the quote at `start` each scanner gets to the index, where the literal
`inside` is open, whatever follows there. The removal of comments does not stop at a byte that is
escaped, and the search for a brace does not know template literals. -/
structure ScansTo (data : List UInt8) (quote : UInt8) (start index : ℕ) (inside : Option UInt8) :
    Prop where
  strips : isEscaped data index = false → ∀ written rest,
    stripFrom (.quoted quote) written (literalBytes data start index ++ rest) =
      stripFrom (literalMode inside) ((literalBytes data start index).reverse ++ written) rest
  searches : quote ≠ 0x60 → ∀ depth rest,
    closingFrom (data.take (start + 1)).reverse (some quote) depth (start + 1)
        (literalBytes data start index ++ rest) =
      closingFrom (data.take index).reverse inside depth index rest
  splits : ∀ braces brackets segment rest,
    segmentsFrom ⟨some quote, braces, brackets⟩ (data.take (start + 1)).reverse segment
        (literalBytes data start index ++ rest) =
      segmentsFrom ⟨inside, braces, brackets⟩ (data.take index).reverse
        ((literalBytes data start index).reverse ++ segment) rest

/-- The literal that is open after a byte within a literal. -/
def insideAfter (quote b : UInt8) (escaped : Bool) : Option UInt8 :=
  if b = quote ∧ escaped = false then none else some quote

/-- The quotes that the search for a brace knows are all but the one of template literals. -/
theorem isString_of_isQuote (hquote : isQuote quote = true) (htemplate : quote ≠ 0x60) :
    (quote == '"'.toUInt8 || quote == '\''.toUInt8) = true := by
  simpa [isQuote, htemplate] using hquote

theorem closingFrom_within (hquote : isQuote quote = true) (htemplate : quote ≠ 0x60)
    (b : UInt8) (before rest : List UInt8) (depth offset : ℕ) :
    closingFrom before (some quote) depth offset (b :: rest) =
      closingFrom (b :: before) (insideAfter quote b (escapedAfter before)) depth (offset + 1)
        rest := by
  have hstring := isString_of_isQuote hquote htemplate
  by_cases hb : b = quote
  · subst b
    cases hescaped : escapedAfter before <;>
      simp [closingFrom, insideAfter, toggle, hstring, hescaped]
  · simp [closingFrom, insideAfter, toggle, hb]

theorem segmentsFrom_within (hquote : isQuote quote = true) (b : UInt8) (braces brackets : ℤ)
    (before segment rest : List UInt8) :
    segmentsFrom ⟨some quote, braces, brackets⟩ before segment (b :: rest) =
      segmentsFrom ⟨insideAfter quote b (escapedAfter before), braces, brackets⟩ (b :: before)
        (b :: segment) rest := by
  have htop : Nesting.isTop ⟨some quote, braces, brackets⟩ = false := rfl
  have hstep : Nesting.step ⟨some quote, braces, brackets⟩ before b =
      ⟨insideAfter quote b (escapedAfter before), braces, brackets⟩ := by
    by_cases hb : b = quote
    · subst b
      cases hescaped : escapedAfter before <;>
        simp [Nesting.step, insideAfter, toggle, hquote, hescaped]
    · simp [Nesting.step, insideAfter, toggle, hb]
  rw [segmentsFrom, htop, Bool.and_false, if_neg Bool.false_ne_true, hstep]

theorem stripFrom_quoted_cons (hbackslash : isBackslash b = false) (written rest : List UInt8) :
    stripFrom (.quoted quote) written (b :: rest) =
      stripFrom (literalMode (insideAfter quote b false)) (b :: written) rest := by
  by_cases hb : b = quote
  · subst b
    cases rest <;> simp [stripFrom, insideAfter, literalMode, hbackslash]
  · cases rest <;> simp [stripFrom, insideAfter, literalMode, hbackslash, hb]

/-- The removal of comments copies a backslash and the byte behind it and stays in the literal. -/
theorem stripFrom_quoted_backslash (b : UInt8) (written rest : List UInt8) :
    stripFrom (.quoted quote) written ('\\'.toUInt8 :: b :: rest) =
      stripFrom (.quoted quote) (b :: '\\'.toUInt8 :: written) rest := by
  have hbackslash : isBackslash '\\'.toUInt8 = true := by decide
  simp [stripFrom, hbackslash]

/-- Behind the quote that opens it the literal is open in each scanner. -/
theorem scansTo_succ_start (data : List UInt8) (quote : UInt8) (start : ℕ) :
    ScansTo data quote start (start + 1) (some quote) where
  strips _ written rest := by rw [literalBytes_self]; rfl
  searches _ depth rest := by rw [literalBytes_self]; rfl
  splits braces brackets segment rest := by rw [literalBytes_self]; rfl

/-- A byte within a literal takes all three scanners on. -/
theorem scansTo_succ (hquote : isQuote quote = true) (hstart : data[start]? = some quote)
    (hlt : start < index) (hbyte : data[index]? = some b)
    (h : ∀ i ≤ index, start < i → ScansTo data quote start i (some quote)) :
    ScansTo data quote start (index + 1) (insideAfter quote b (isEscaped data index)) where
  strips hunescaped written rest := by
    cases hescaped : isEscaped data index with
    | false =>
      have hbackslash : isBackslash b = false := by
        simpa [isEscaped_succ hbyte, hescaped] using hunescaped
      rw [literalBytes_succ hbyte hlt, List.append_assoc, List.singleton_append,
        (h index le_rfl hlt).strips hescaped, literalMode, stripFrom_quoted_cons hbackslash,
        List.reverse_append]
      rfl
    | true =>
      -- The scan is at the backslash, which it copies together with this byte.
      obtain ⟨hlength, -⟩ := List.getElem?_eq_some_iff.mp hbyte
      obtain ⟨k, rfl, hk, hbackslash, hfree⟩ :=
        exists_backslash_of_isEscaped hquote hstart hlt hlength.le hescaped
      rw [literalBytes_succ hbyte hlt, literalBytes_succ hbackslash hk, List.append_assoc,
        List.append_assoc, List.singleton_append, List.singleton_append,
        (h k (Nat.le_succ k) hk).strips hfree, literalMode, stripFrom_quoted_backslash]
      simp [insideAfter, literalMode]
  searches htemplate depth rest := by
    obtain ⟨hlength, -⟩ := List.getElem?_eq_some_iff.mp hbyte
    rw [literalBytes_succ hbyte hlt, List.append_assoc, List.singleton_append,
      (h index le_rfl hlt).searches htemplate, closingFrom_within hquote htemplate,
      reverse_take_succ hbyte, isEscaped_of_le hlength.le]
  splits braces brackets segment rest := by
    obtain ⟨hlength, -⟩ := List.getElem?_eq_some_iff.mp hbyte
    rw [literalBytes_succ hbyte hlt, List.append_assoc, List.singleton_append,
      (h index le_rfl hlt).splits, segmentsFrom_within hquote, reverse_take_succ hbyte,
      isEscaped_of_le hlength.le, List.reverse_append]
    rfl

/-- Up to the end of the literal the scanners are within it. -/
theorem IsLiteralEnd.scansTo (h : IsLiteralEnd data quote start stop)
    (hquote : isQuote quote = true) (hstart : data[start]? = some quote) (hlt : start < index)
    (hle : index ≤ stop) : ScansTo data quote start index (some quote) := by
  induction index using Nat.strong_induction_on with
  | _ index ih =>
    obtain ⟨k, rfl⟩ := Nat.exists_eq_add_one_of_ne_zero (Nat.ne_zero_of_lt hlt)
    rcases (Nat.le_of_lt_succ hlt).eq_or_lt with rfl | hk
    · exact scansTo_succ_start data quote start
    · obtain ⟨b, hbyte⟩ : ∃ b, data[k]? = some b :=
        ⟨_, List.getElem?_eq_getElem ((Nat.lt_of_succ_le hle).trans_le h.le)⟩
      have hscans := scansTo_succ hquote hstart hk hbyte fun i hi hstart ↦
        ih i (Nat.lt_succ_of_le hi) hstart (hi.trans ((Nat.le_succ k).trans hle))
      have hwithin : ¬ (b = quote ∧ isEscaped data k = false) := by
        rintro ⟨rfl, hfree⟩
        exact h.first k hle hk ⟨hbyte, hfree⟩
      rwa [insideAfter, if_neg hwithin] at hscans

/-- Behind the quote that closes the literal the scanners are out of it. -/
theorem IsLiteralEnd.scansTo_closed (h : IsLiteralEnd data quote start stop)
    (hquote : isQuote quote = true) (hstart : data[start]? = some quote)
    (hlt : stop < data.length) : ScansTo data quote start (stop + 1) none := by
  obtain ⟨hbyte, hfree⟩ := h.closes hlt
  have hscans := scansTo_succ hquote hstart h.lt hbyte fun i hi hstart' ↦
    h.scansTo hquote hstart hstart' hi
  rwa [insideAfter, if_pos ⟨rfl, hfree⟩] at hscans

/-- A literal that the text does not close is copied up to the end, its last backslash too. -/
theorem IsLiteralEnd.stripFrom_eq (h : IsLiteralEnd data quote start data.length)
    (hquote : isQuote quote = true) (hstart : data[start]? = some quote) (written : List UInt8) :
    stripFrom (.quoted quote) written (data.drop (start + 1)) =
      written.reverse ++ data.drop (start + 1) := by
  have hall : literalBytes data start data.length = data.drop (start + 1) := by
    rw [literalBytes, List.take_length]
  cases hescaped : isEscaped data data.length with
  | false =>
    have hstrips := (h.scansTo hquote hstart h.lt le_rfl).strips hescaped written []
    rw [hall, List.append_nil, stripFrom_nil, List.reverse_append, List.reverse_reverse] at hstrips
    exact hstrips
  | true =>
    -- Behind the last backslash there is nothing to skip, so that it is copied by itself.
    obtain ⟨k, hk, hlt, hbackslash, hfree⟩ :=
      exists_backslash_of_isEscaped hquote hstart h.lt le_rfl hescaped
    have hle : k ≤ data.length := hk ▸ Nat.le_succ k
    have hstrips := (h.scansTo hquote hstart hlt hle).strips hfree written ['\\'.toUInt8]
    rw [← literalBytes_succ hbackslash hlt, ← hk, hall] at hstrips
    have hone : isBackslash '\\'.toUInt8 = true := by decide
    rw [hstrips, ← hall, hk, literalBytes_succ hbackslash hlt]
    simp [literalMode, stripFrom, hone]

/-! ### The three scanners agree -/

/-- Outside of literals each scanner enters one at the quote; those that look back do so unless the
quote is escaped. -/
structure OpensAt (data : List UInt8) (quote : UInt8) (start : ℕ) : Prop where
  strips : ∀ written rest,
    stripFrom .code written (quote :: rest) = stripFrom (.quoted quote) (quote :: written) rest
  searches : quote ≠ 0x60 → isEscaped data start = false → ∀ depth rest,
    closingFrom (data.take start).reverse none depth start (quote :: rest) =
      closingFrom (data.take (start + 1)).reverse (some quote) depth (start + 1) rest
  splits : isEscaped data start = false → ∀ braces brackets segment rest,
    segmentsFrom ⟨none, braces, brackets⟩ (data.take start).reverse segment (quote :: rest) =
      segmentsFrom ⟨some quote, braces, brackets⟩ (data.take (start + 1)).reverse
        (quote :: segment) rest

theorem opensAt_of_isQuote (hquote : isQuote quote = true) (hstart : data[start]? = some quote) :
    OpensAt data quote start where
  strips written rest := by
    cases rest <;> simp [stripFrom, hquote]
  searches htemplate hfree depth rest := by
    obtain ⟨hlength, -⟩ := List.getElem?_eq_some_iff.mp hstart
    have hstring := isString_of_isQuote hquote htemplate
    rw [isEscaped_of_le hlength.le] at hfree
    rw [reverse_take_succ hstart]
    simp [closingFrom, toggle, hstring, hfree]
  splits hfree braces brackets segment rest := by
    obtain ⟨hlength, -⟩ := List.getElem?_eq_some_iff.mp hstart
    rw [isEscaped_of_le hlength.le] at hfree
    have hcomma : (quote == ','.toUInt8) = false := by
      rw [beq_eq_false_iff_ne]
      rintro rfl
      exact absurd hquote (by decide)
    rw [segmentsFrom, hcomma, Bool.false_and, if_neg Bool.false_ne_true, Nesting.step, hquote,
      hfree, reverse_take_succ hstart]
    rfl

/-- To look back at the backslashes is to skip what they escape, and so the three scanners close a
literal at the same byte: the first later quote of its kind that is not escaped, if there is one.
Without one they are within the literal up to the end of the text, which is copied. -/
theorem literals_end_alike (data : List UInt8) :
    (isEscaped data 0 = false ∧ ∀ index, data.length < index → isEscaped data index = false) ∧
    (∀ index < data.length, isEscaped data (index + 1) = true ↔
      data[index]? = some '\\'.toUInt8 ∧ isEscaped data index = false) ∧
    ∀ start quote, data[start]? = some quote → isQuote quote = true →
      OpensAt data quote start ∧ (∃! stop, IsLiteralEnd data quote start stop) ∧
      ∀ stop, IsLiteralEnd data quote start stop →
        (∀ index, start < index → index ≤ stop → ScansTo data quote start index (some quote)) ∧
        (stop < data.length →
          isEscaped data (stop + 1) = false ∧ ScansTo data quote start (stop + 1) none) ∧
        (stop = data.length → ∀ written,
          stripFrom (.quoted quote) written (data.drop (start + 1)) =
            written.reverse ++ data.drop (start + 1)) := by
  refine ⟨⟨isEscaped_zero data, fun index ↦ isEscaped_of_lt⟩, fun index ↦ isEscaped_succ_iff, ?_⟩
  intro start quote hstart hquote
  obtain ⟨hlength, -⟩ := List.getElem?_eq_some_iff.mp hstart
  obtain ⟨stop, hend⟩ := exists_isLiteralEnd hlength quote
  refine ⟨opensAt_of_isQuote hquote hstart, ⟨stop, hend, fun stop' ↦ hend.unique⟩, ?_⟩
  intro stop hend
  refine ⟨fun index ↦ hend.scansTo hquote hstart, fun hlt ↦ ⟨?_, ?_⟩, ?_⟩
  · exact isEscaped_succ_of_isQuote (hend.closes hlt).1 hquote
  · exact hend.scansTo_closed hquote hstart hlt
  · rintro rfl written
    exact hend.stripFrom_eq hquote hstart written

/-- A quote that is escaped itself, then an escaped one behind three backslashes, and one behind two
that closes the literal; and a literal of which the text ends behind a backslash. -/
theorem literals_end_alike_backslashes :
    let closed := bytes "\\'\\\\\\'\"\\\\'\\".toList
    let unclosed := bytes "'é\\'\\".toList
    (IsLiteralEnd closed '\''.toUInt8 1 9 ∧ ScansTo closed '\''.toUInt8 1 10 none) ∧
      IsLiteralEnd unclosed '\''.toUInt8 0 6 ∧
      stripFrom (.quoted '\''.toUInt8) [] (unclosed.drop 1) = unclosed.drop 1 := by
  intro closed unclosed
  have hclosed : IsLiteralEnd closed '\''.toUInt8 1 9 :=
    ⟨by decide, by decide, by decide, fun _ ↦ by decide⟩
  have hunclosed : IsLiteralEnd unclosed '\''.toUInt8 0 6 :=
    ⟨by decide, by decide, by decide, fun h ↦ absurd h (by decide)⟩
  obtain ⟨-, -, hends⟩ := literals_end_alike closed
  obtain ⟨-, -, hends'⟩ := literals_end_alike unclosed
  obtain ⟨-, hbehind, -⟩ := (hends 1 _ rfl (by decide)).2.2 9 hclosed
  obtain ⟨-, -, hcopied⟩ := (hends' 0 _ rfl (by decide)).2.2 6 hunclosed
  exact ⟨⟨hclosed, (hbehind (by decide)).2⟩, hunclosed, hcopied rfl []⟩

end PluginRecovery.Script
