import Mathlib
import PluginRecovery.Text.Bytes

/-!
The decoder undoes the encoding: `decode_bytes_append` reads every text back, whatever bytes come
after it. `decode_bytes_append_tail` is the one damage that a cut leaves, a last byte without the
bytes before it, which becomes one U+FFFD. The other results tell the bytes of ASCII characters,
one below U+0080 each, from those of the rest.
-/

set_option autoImplicit false
set_option relaxedAutoImplicit false

namespace PluginRecovery.Text

/-! ### The encoding of a text -/

@[simp] theorem bytes_nil : bytes [] = [] :=
  rfl

@[simp] theorem bytes_cons (c : Char) (rest : List Char) :
    bytes (c :: rest) = String.utf8EncodeChar c ++ bytes rest :=
  rfl

@[simp] theorem bytes_append (first last : List Char) :
    bytes (first ++ last) = bytes first ++ bytes last := by
  simp [bytes]

/-- The size of a text is the number of its bytes. -/
theorem length_bytes (text : List Char) : (bytes text).length = size text := by
  induction text with
  | nil => rfl
  | cons c rest ih =>
    rw [bytes_cons, List.length_append, String.length_utf8EncodeChar, ih]
    rfl

theorem size_append (front back : List Char) : size (front ++ back) = size front + size back := by
  rw [← length_bytes, bytes_append, List.length_append, length_bytes, length_bytes]

theorem size_le_append (front back : List Char) : size front ≤ size (front ++ back) := by
  rw [size_append]
  exact Nat.le_add_right _ _

theorem size_lt_append_cons (front : List Char) (c : Char) (back : List Char) :
    size front < size (front ++ c :: back) := by
  rw [size_append]
  exact Nat.lt_add_of_pos_right (Nat.add_pos_left c.utf8Size_pos _)

/-- As many bytes as the front of a text has are that front. -/
theorem takeBytes_size_append (front back : List Char) :
    takeBytes (size front) (front ++ back) = front := by
  induction front with
  | nil =>
    cases back with
    | nil => rfl
    | cons c back => exact if_neg (Nat.not_le.mpr c.utf8Size_pos)
  | cons c front ih =>
    rw [size, List.cons_append, takeBytes, if_pos (Nat.le_add_right _ _), Nat.add_sub_cancel_left,
      ih]

/-- A character below U+0080 is one byte. -/
theorem utf8EncodeChar_of_lt {c : Char} (h : c.toNat < 0x80) :
    String.utf8EncodeChar c = [c.toUInt8] := by
  have hle : c.val.toNat ≤ 0x7F := Nat.le_of_lt_succ h
  simp only [String.utf8EncodeChar, hle, if_true]
  rfl

/-- The byte that carries the low six bits of a number, as every byte after a character's first. -/
def tailByte (n : ℕ) : UInt8 :=
  UInt8.ofNat (n % 0x40 + 0x80)

/-- The last six bits of a number go into a byte behind the first one. -/
theorem toNat_tailByte (n : ℕ) : (tailByte n).toNat = n % 0x40 + 0x80 := by
  simp only [tailByte, UInt8.toNat_ofNat']
  omega

theorem le_tailByte (n : ℕ) : 0x80 ≤ tailByte n := by
  rw [UInt8.le_iff_toNat_le, toNat_tailByte]
  exact Nat.le_add_left _ _

theorem tailByte_le (n : ℕ) : tailByte n ≤ 0xBF := by
  have hbound : (0xBF : UInt8).toNat = 0xBF := rfl
  rw [UInt8.le_iff_toNat_le, toNat_tailByte, hbound]
  omega

/-- A character from U+0080 on ends in a tail byte and has other bytes before it. -/
theorem exists_utf8EncodeChar_eq_append {c : Char} (h : 0x80 ≤ c.toNat) :
    ∃ front, front ≠ [] ∧ String.utf8EncodeChar c = front ++ [tailByte c.toNat] := by
  have hone : ¬ c.val.toNat ≤ 0x7F := Nat.not_le_of_gt h
  unfold String.utf8EncodeChar
  dsimp only
  rw [if_neg hone]
  split_ifs
  · exact ⟨[_], List.cons_ne_nil _ _, rfl⟩
  · exact ⟨[_, _], List.cons_ne_nil _ _, rfl⟩
  · exact ⟨[_, _, _], List.cons_ne_nil _ _, rfl⟩

/-- Every byte of a character from U+0080 on is itself at least `0x80`. -/
theorem le_of_mem_utf8EncodeChar {c : Char} (h : 0x80 ≤ c.toNat) {b : UInt8}
    (hb : b ∈ String.utf8EncodeChar c) : 0x80 ≤ b := by
  have hbase : (0x80 : UInt8).toNat = 0x80 := rfl
  have hone : ¬ c.val.toNat ≤ 0x7F := Nat.not_le_of_gt h
  unfold String.utf8EncodeChar at hb
  dsimp only at hb
  rw [if_neg hone] at hb
  rw [UInt8.le_iff_toNat_le, hbase]
  split_ifs at hb <;> simp only [List.mem_cons, List.not_mem_nil, or_false] at hb
  · rcases hb with rfl | rfl <;> simp only [UInt8.toNat_ofNat'] <;> omega
  · rcases hb with rfl | rfl | rfl <;> simp only [UInt8.toNat_ofNat'] <;> omega
  · rcases hb with rfl | rfl | rfl | rfl <;> simp only [UInt8.toNat_ofNat'] <;> omega

/-! ### Reading one character -/

theorem firstByte_two {b : UInt8} (hlow : 0xC2 ≤ b.toNat) (hhigh : b.toNat < 0xE0) :
    firstByte b = ([], some ⟨b.toNat - 0xC0, 1, 0x80, 0xBF⟩) := by
  simp only [firstByte, UInt8.lt_iff_toNat_lt, ← UInt8.toNat_inj, UInt8.reduceToNat]
  rw [if_neg (by omega), if_neg (by omega), if_pos hhigh]

theorem firstByte_three {b : UInt8} (hlow : 0xE0 ≤ b.toNat) (hhigh : b.toNat < 0xF0) :
    firstByte b = ([], some ⟨b.toNat - 0xE0, 2, if b.toNat = 0xE0 then 0xA0 else 0x80,
      if b.toNat = 0xED then 0x9F else 0xBF⟩) := by
  simp only [firstByte, UInt8.lt_iff_toNat_lt, ← UInt8.toNat_inj, UInt8.reduceToNat]
  rw [if_neg (by omega), if_neg (by omega), if_neg (by omega)]
  by_cases hfirst : b.toNat = 0xE0
  · simp [hfirst]
  · by_cases hsurrogate : b.toNat = 0xED
    · simp [hsurrogate]
    · rw [if_neg hfirst, if_neg hsurrogate, if_pos hhigh, if_neg hfirst, if_neg hsurrogate]

theorem firstByte_four {b : UInt8} (hlow : 0xF0 ≤ b.toNat) (hhigh : b.toNat ≤ 0xF4) :
    firstByte b = ([], some ⟨b.toNat - 0xF0, 3, if b.toNat = 0xF0 then 0x90 else 0x80,
      if b.toNat = 0xF4 then 0x8F else 0xBF⟩) := by
  simp only [firstByte, UInt8.lt_iff_toNat_lt, ← UInt8.toNat_inj, UInt8.reduceToNat]
  rw [if_neg (by omega), if_neg (by omega), if_neg (by omega), if_neg (by omega),
    if_neg (by omega), if_neg (by omega)]
  by_cases hfirst : b.toNat = 0xF0
  · simp [hfirst]
  · by_cases hlast : b.toNat = 0xF4
    · simp [hlast]
    · rw [if_neg hfirst, if_pos (by omega), if_neg hfirst, if_neg hlast]

/-- The last byte that a character owes ends it. -/
theorem decodeFrom_tailByte (bits n : ℕ) (rest : List UInt8) :
    decodeFrom (some ⟨bits, 1, 0x80, 0xBF⟩) (tailByte n :: rest) =
      Char.ofNat (bits * 64 + n % 0x40) :: decodeFrom none rest := by
  simp [decodeFrom, le_tailByte, tailByte_le, toNat_tailByte]

/-- A byte that is not the last one owed adds its bits. -/
theorem decodeFrom_tailByte_of_lt {bits owed n : ℕ} {low high : UInt8} (howed : 1 < owed)
    (hlow : low ≤ tailByte n) (hhigh : tailByte n ≤ high) (rest : List UInt8) :
    decodeFrom (some ⟨bits, owed, low, high⟩) (tailByte n :: rest) =
      decodeFrom (some ⟨bits * 64 + n % 0x40, owed - 1, 0x80, 0xBF⟩) rest := by
  have hmore : ¬ owed ≤ 1 := Nat.not_le_of_gt howed
  simp [decodeFrom, hlow, hhigh, hmore, toNat_tailByte]

/-- The bound that a first byte puts below the next byte holds when it has to. -/
theorem ite_le_tailByte {n : ℕ} {special : Prop} [Decidable special] {bound : UInt8}
    (h : special → bound.toNat ≤ n % 0x40 + 0x80) :
    (if special then bound else 0x80) ≤ tailByte n := by
  split_ifs with hspecial
  · rw [UInt8.le_iff_toNat_le, toNat_tailByte]
    exact h hspecial
  · exact le_tailByte n

/-- The bound that a first byte puts above the next byte holds when it has to. -/
theorem tailByte_le_ite {n : ℕ} {special : Prop} [Decidable special] {bound : UInt8}
    (h : special → n % 0x40 + 0x80 ≤ bound.toNat) :
    tailByte n ≤ if special then bound else 0xBF := by
  split_ifs with hspecial
  · rw [UInt8.le_iff_toNat_le, toNat_tailByte]
    exact h hspecial
  · exact tailByte_le n

theorem decodeFrom_one {n : ℕ} (h : n ≤ 0x7F) (rest : List UInt8) :
    decodeFrom none (UInt8.ofNat n :: rest) = Char.ofNat n :: decodeFrom none rest := by
  have hb : (UInt8.ofNat n).toNat = n := by
    simp only [UInt8.toNat_ofNat']
    omega
  have hlt : UInt8.ofNat n < 0x80 := by
    rw [UInt8.lt_iff_toNat_lt, hb]
    exact Nat.lt_succ_of_le h
  simp [decodeFrom, firstByte, hlt, hb]

theorem decodeFrom_two {n : ℕ} (hlow : 0x7F < n) (hhigh : n ≤ 0x7FF) (rest : List UInt8) :
    decodeFrom none (UInt8.ofNat (n / 64 % 0x20 + 0xC0) :: tailByte n :: rest) =
      Char.ofNat n :: decodeFrom none rest := by
  have hb : (UInt8.ofNat (n / 64 % 0x20 + 0xC0)).toNat = n / 64 + 0xC0 := by
    simp only [UInt8.toNat_ofNat']
    omega
  have hbits : (n / 64 + 0xC0 - 0xC0) * 64 + n % 0x40 = n := by omega
  rw [decodeFrom, firstByte_two (by omega) (by omega)]
  simp only [List.nil_append]
  rw [decodeFrom_tailByte, hb, hbits]

/-- The numbers of characters that take three bytes leave out the surrogates. -/
theorem decodeFrom_three {n : ℕ} (hlow : 0x7FF < n) (hhigh : n ≤ 0xFFFF)
    (hscalar : n < 0xD800 ∨ 0xDFFF < n) (rest : List UInt8) :
    decodeFrom none
        (UInt8.ofNat (n / 4096 % 0x10 + 0xE0) :: tailByte (n / 64) :: tailByte n :: rest) =
      Char.ofNat n :: decodeFrom none rest := by
  have hb : (UInt8.ofNat (n / 4096 % 0x10 + 0xE0)).toNat = n / 4096 + 0xE0 := by
    simp only [UInt8.toNat_ofNat']
    omega
  have hbits : ((n / 4096 + 0xE0 - 0xE0) * 64 + n / 64 % 0x40) * 64 + n % 0x40 = n := by omega
  have hleast : (0xA0 : UInt8).toNat = 0xA0 := rfl
  have hgreatest : (0x9F : UInt8).toNat = 0x9F := rfl
  rw [decodeFrom, firstByte_three (by omega) (by omega)]
  simp only [List.nil_append]
  rw [decodeFrom_tailByte_of_lt Nat.one_lt_two (ite_le_tailByte (by omega))
    (tailByte_le_ite (by omega)), decodeFrom_tailByte, hb, hbits]

theorem decodeFrom_four {n : ℕ} (hlow : 0xFFFF < n) (hhigh : n < 0x110000) (rest : List UInt8) :
    decodeFrom none
        (UInt8.ofNat (n / 262144 % 0x08 + 0xF0) :: tailByte (n / 4096) :: tailByte (n / 64) ::
          tailByte n :: rest) =
      Char.ofNat n :: decodeFrom none rest := by
  have hb : (UInt8.ofNat (n / 262144 % 0x08 + 0xF0)).toNat = n / 262144 + 0xF0 := by
    simp only [UInt8.toNat_ofNat']
    omega
  have hbits : (((n / 262144 + 0xF0 - 0xF0) * 64 + n / 4096 % 0x40) * 64 + n / 64 % 0x40) * 64 +
      n % 0x40 = n := by omega
  have hleast : (0x90 : UInt8).toNat = 0x90 := rfl
  have hgreatest : (0x8F : UInt8).toNat = 0x8F := rfl
  rw [decodeFrom, firstByte_four (by omega) (by omega)]
  simp only [List.nil_append]
  rw [decodeFrom_tailByte_of_lt (by omega) (ite_le_tailByte (by omega))
    (tailByte_le_ite (by omega)), decodeFrom_tailByte_of_lt Nat.one_lt_two (le_tailByte _)
    (tailByte_le _), decodeFrom_tailByte, hb, hbits]

/-- The bytes of a character are read as the character. -/
theorem decodeFrom_utf8EncodeChar (c : Char) (rest : List UInt8) :
    decodeFrom none (String.utf8EncodeChar c ++ rest) = c :: decodeFrom none rest := by
  have hvalid : c.val.toNat < 0xD800 ∨ 0xDFFF < c.val.toNat ∧ c.val.toNat < 0x110000 := c.valid
  have hread : decodeFrom none (String.utf8EncodeChar c ++ rest) =
      Char.ofNat c.val.toNat :: decodeFrom none rest := by
    unfold String.utf8EncodeChar
    dsimp only
    split_ifs with hone htwo hthree
    · exact decodeFrom_one hone rest
    · exact decodeFrom_two (by omega) htwo rest
    · exact decodeFrom_three (by omega) hthree (by omega) rest
    · exact decodeFrom_four (by omega) (by omega) rest
  rw [hread]
  exact congrArg (· :: decodeFrom none rest) (Char.ofNat_toNat c)

/-! ### Reading a text -/

/-- What comes after the bytes of a text is decoded on its own. -/
theorem decode_bytes_append (text : List Char) (rest : List UInt8) :
    decode (bytes text ++ rest) = text ++ decode rest := by
  induction text with
  | nil => rfl
  | cons c text ih =>
    rw [bytes_cons, List.append_assoc, decode, decodeFrom_utf8EncodeChar, List.cons_append]
    exact congrArg (c :: ·) ih

/-- The decoder reads a text back. -/
theorem decode_bytes (text : List Char) : decode (bytes text) = text := by
  have h := decode_bytes_append text []
  simpa [decode, decodeFrom] using h

/-- A last byte without the bytes before it is read as one U+FFFD. -/
theorem decode_bytes_append_tail (text : List Char) (n : ℕ) :
    decode (bytes text ++ [tailByte n]) = text ++ [replacement] := by
  have hlow : ¬ tailByte n < 0x80 := UInt8.not_lt.mpr (le_tailByte n)
  have hhigh : tailByte n < 0xC2 := UInt8.lt_of_le_of_lt (tailByte_le n) (by decide)
  rw [decode_bytes_append]
  simp [decode, decodeFrom, firstByte, hlow, hhigh]

end PluginRecovery.Text
