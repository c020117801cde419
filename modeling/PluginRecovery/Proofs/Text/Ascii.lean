import PluginRecovery.Proofs.Text.Encoding

/-!
Tests for ASCII characters, made on bytes. A scan that looks only for ASCII may read the bytes of a
text in the place of its characters: the first byte of a character passes each test that the
character passes (`AsciiAlike`), and the bytes after it pass none.
-/

set_option autoImplicit false
set_option relaxedAutoImplicit false

namespace PluginRecovery.Text

theorem toUInt8_eq_iff {c d : Char} (hc : c.toNat < 0x80) (hd : d.toNat < 0x80) :
    c.toUInt8 = d.toUInt8 ↔ c = d := by
  constructor
  · intro h
    have hval := congrArg UInt8.toNat h
    simp only [Char.toUInt8, UInt32.toNat_toUInt8] at hval
    change c.toNat % 2 ^ 8 = d.toNat % 2 ^ 8 at hval
    rw [Nat.mod_eq_of_lt (by omega), Nat.mod_eq_of_lt (by omega)] at hval
    exact Char.toNat_inj.mp hval
  · rintro rfl
    rfl

theorem toUInt8_lt {c : Char} (hc : c.toNat < 0x80) : c.toUInt8 < 0x80 := by
  rw [UInt8.lt_iff_toNat_lt]
  simp only [Char.toUInt8, UInt32.toNat_toUInt8]
  change c.toNat % 2 ^ 8 < 0x80
  omega

/-- A text of ASCII characters has one byte for each. -/
theorem bytes_of_ascii {text : List Char} (h : ∀ c ∈ text, c.toNat < 0x80) :
    bytes text = text.map Char.toUInt8 := by
  induction text with
  | nil => rfl
  | cons c rest ih =>
    rw [bytes_cons, utf8EncodeChar_of_lt (h c List.mem_cons_self),
      ih fun d hd ↦ h d (List.mem_cons_of_mem c hd)]
    rfl

/-- A byte and a character that no test for an ASCII character tells apart: the byte is the
character, or neither is ASCII. -/
def AsciiAlike (b : UInt8) (c : Char) : Prop :=
  (c.toNat < 0x80 ∧ b = c.toUInt8) ∨ (0x80 ≤ c.toNat ∧ 0x80 ≤ b)

theorem AsciiAlike.eq_iff {b : UInt8} {c d : Char} (h : AsciiAlike b c) (hd : d.toNat < 0x80) :
    b = d.toUInt8 ↔ c = d := by
  rcases h with ⟨hc, rfl⟩ | ⟨hc, hb⟩
  · exact toUInt8_eq_iff hc hd
  · constructor
    · rintro rfl
      exact absurd (toUInt8_lt hd) (UInt8.not_lt.mpr hb)
    · rintro rfl
      exact absurd hd (Nat.not_lt.mpr hc)

theorem AsciiAlike.mem_iff {b : UInt8} {c : Char} (h : AsciiAlike b c) {members : List Char}
    (hmembers : ∀ d ∈ members, d.toNat < 0x80) : b ∈ bytes members ↔ c ∈ members := by
  rw [bytes_of_ascii hmembers, List.mem_map]
  constructor
  · rintro ⟨d, hd, heq⟩
    rwa [(h.eq_iff (hmembers d hd)).mp heq.symm]
  · intro hc
    exact ⟨c, hc, ((h.eq_iff (hmembers c hc)).mpr rfl).symm⟩

theorem AsciiAlike.beq_eq {b : UInt8} {c d : Char} (h : AsciiAlike b c) (hd : d.toNat < 0x80) :
    (b == d.toUInt8) = decide (c = d) := by
  rw [Bool.eq_iff_iff, beq_iff_eq, decide_eq_true_iff]
  exact h.eq_iff hd

/-- A byte that is not ASCII is like U+FFFD. -/
theorem asciiAlike_replacement {b : UInt8} (h : 0x80 ≤ b) : AsciiAlike b replacement :=
  Or.inr ⟨by decide, h⟩

/-- Every byte is like some character. -/
theorem exists_asciiAlike (b : UInt8) : ∃ c, AsciiAlike b c := by
  by_cases h : 0x80 ≤ b
  · exact ⟨replacement, asciiAlike_replacement h⟩
  · have hlt : b.toNat < 0x80 := UInt8.lt_iff_toNat_lt.mp (UInt8.not_le.mp h)
    have hchar : (Char.ofNat b.toNat).toNat = b.toNat := by
      rw [Char.toNat_ofNat, if_pos (Or.inl (by omega))]
    refine ⟨Char.ofNat b.toNat, Or.inl ⟨by rwa [hchar], ?_⟩⟩
    rw [← UInt8.toNat_inj, Char.toUInt8, UInt32.toNat_toUInt8]
    change _ = (Char.ofNat b.toNat).toNat % _
    rw [hchar, Nat.mod_eq_of_lt (by omega)]

/-- The first byte of a character is like it, those after it are not ASCII. -/
theorem exists_utf8EncodeChar_eq_cons (c : Char) :
    ∃ first tail, String.utf8EncodeChar c = first :: tail ∧ AsciiAlike first c ∧
      ∀ b ∈ tail, 0x80 ≤ b := by
  by_cases h : c.toNat < 0x80
  · exact ⟨c.toUInt8, [], utf8EncodeChar_of_lt h, Or.inl ⟨h, rfl⟩, by simp⟩
  · have hle : 0x80 ≤ c.toNat := Nat.not_lt.mp h
    obtain ⟨first, tail, hbytes⟩ :=
      List.exists_cons_of_ne_nil (String.utf8EncodeChar_ne_nil (c := c))
    have hall : ∀ b ∈ first :: tail, 0x80 ≤ b := by
      intro b hb
      exact le_of_mem_utf8EncodeChar hle (hbytes ▸ hb)
    exact ⟨first, tail, hbytes, Or.inr ⟨hle, hall first List.mem_cons_self⟩,
      fun b hb ↦ hall b (List.mem_cons_of_mem first hb)⟩

/-- A character has the byte of an ASCII character only when it is that character. -/
theorem toUInt8_mem_utf8EncodeChar_iff {c d : Char} (hd : d.toNat < 0x80) :
    d.toUInt8 ∈ String.utf8EncodeChar c ↔ c = d := by
  obtain ⟨first, tail, hbytes, halike, htail⟩ := exists_utf8EncodeChar_eq_cons c
  have hnot : d.toUInt8 ∉ tail := fun h ↦
    absurd (toUInt8_lt hd) (UInt8.not_lt.mpr (htail _ h))
  rw [hbytes, List.mem_cons, or_iff_left hnot, eq_comm, halike.eq_iff hd]

/-- The last byte of a character is like it. -/
theorem exists_reverse_utf8EncodeChar (c : Char) :
    ∃ last front, (String.utf8EncodeChar c).reverse = last :: front ∧ AsciiAlike last c := by
  by_cases h : c.toNat < 0x80
  · exact ⟨c.toUInt8, [], by rw [utf8EncodeChar_of_lt h]; rfl, Or.inl ⟨h, rfl⟩⟩
  · have hle : 0x80 ≤ c.toNat := Nat.not_lt.mp h
    obtain ⟨front, -, hfront⟩ := exists_utf8EncodeChar_eq_append hle
    exact ⟨tailByte c.toNat, front.reverse, by simp [hfront], Or.inr ⟨hle, le_tailByte _⟩⟩

end PluginRecovery.Text
