import Mathlib
import PluginRecovery.Proofs.Text.Ascii

/-!
Slices of a text whose ends are places between characters: a slice from the size of a front to the
size of a longer one is the part between the two (`slice_append`), so between two such places it
holds the bytes there (`bytes_slice`). Every offset has a last place at or before it, which is where
the characters that fit before it end (`isGreatest_floorBoundary`). An ASCII byte stands where its
character begins (`getElem?_bytes_eq_some_iff`), which is a place between characters
(`isBoundary_of_getElem?`).
-/

set_option autoImplicit false
set_option relaxedAutoImplicit false

namespace PluginRecovery.Text

theorem dropBytes_size_append (front back : List Char) :
    dropBytes (size front) (front ++ back) = back := by
  induction front with
  | nil => cases back <;> rfl
  | cons c front ih =>
    obtain ⟨n, hn⟩ := Nat.exists_eq_add_one_of_ne_zero c.utf8Size_pos.ne'
    have hsize : size (c :: front) = (n + size front) + 1 := by
      rw [size, hn]
      omega
    rw [hsize, List.cons_append, dropBytes, hn]
    simpa using ih

/-- The part between two places. -/
theorem slice_append (front middle back : List Char) :
    slice (front ++ middle ++ back) (size front) (size (front ++ middle)) = middle := by
  rw [slice, size_append, Nat.add_sub_cancel_left, List.append_assoc, dropBytes_size_append,
    takeBytes_size_append]

/-! ### The characters that fit -/

theorem takeBytes_prefix (n : ℕ) (text : List Char) : takeBytes n text <+: text := by
  induction text generalizing n with
  | nil => exact List.prefix_refl []
  | cons c text ih =>
    rw [takeBytes]
    split_ifs
    · exact (List.prefix_cons_inj c).mpr (ih _)
    · exact List.nil_prefix

theorem size_takeBytes_le (n : ℕ) (text : List Char) : size (takeBytes n text) ≤ n := by
  induction text generalizing n with
  | nil => exact Nat.zero_le n
  | cons c text ih =>
    rw [takeBytes]
    split_ifs with hc
    · have htail := ih (n - c.utf8Size)
      rw [size]
      omega
    · exact Nat.zero_le n

theorem takeBytes_size_add_append (front back : List Char) (n : ℕ) :
    takeBytes (size front + n) (front ++ back) = front ++ takeBytes n back := by
  induction front with
  | nil => rw [size, Nat.zero_add, List.nil_append, List.nil_append]
  | cons c front ih =>
    rw [List.cons_append, takeBytes, size, Nat.add_assoc, if_pos (Nat.le_add_right _ _),
      Nat.add_sub_cancel_left, ih, List.cons_append]

/-- A text that fits is taken as a whole. -/
theorem takeBytes_eq_self {n : ℕ} {text : List Char} (h : size text ≤ n) :
    takeBytes n text = text := by
  obtain ⟨more, rfl⟩ := Nat.exists_eq_add_of_le h
  have htake := takeBytes_size_add_append text [] more
  rwa [List.append_nil, takeBytes, List.append_nil] at htake

/-! ### Places between characters -/

/-- The offset is that of a place between two characters of the text, or of one of its ends. -/
def IsBoundary (text : List Char) (offset : ℕ) : Prop :=
  ∃ front back, text = front ++ back ∧ offset = size front

/-- The greatest place between characters at or below an offset: the end of what fits before it. -/
def floorBoundary (text : List Char) (index : ℕ) : ℕ :=
  size (takeBytes index text)

theorem isBoundary_floorBoundary (text : List Char) (index : ℕ) :
    IsBoundary text (floorBoundary text index) := by
  obtain ⟨back, hback⟩ := takeBytes_prefix index text
  exact ⟨takeBytes index text, back, hback.symm, rfl⟩

/-- The boundary that is gone back to is the greatest one up to the index. -/
theorem isGreatest_floorBoundary (text : List Char) (index : ℕ) :
    IsGreatest {offset | IsBoundary text offset ∧ offset ≤ index} (floorBoundary text index) := by
  refine ⟨⟨isBoundary_floorBoundary text index, size_takeBytes_le index text⟩, ?_⟩
  rintro _ ⟨⟨front, back, rfl, rfl⟩, hle⟩
  obtain ⟨more, rfl⟩ := Nat.exists_eq_add_of_le hle
  rw [floorBoundary, takeBytes_size_add_append]
  exact size_le_append _ _

/-- A place between characters is one that no offset has to be moved back from. -/
theorem isBoundary_iff {text : List Char} {offset : ℕ} :
    IsBoundary text offset ↔ floorBoundary text offset = offset := by
  constructor
  · rintro ⟨front, back, rfl, rfl⟩
    rw [floorBoundary, takeBytes_size_append]
  · intro h
    exact h ▸ isBoundary_floorBoundary text offset

instance (text : List Char) (offset : ℕ) : Decidable (IsBoundary text offset) :=
  decidable_of_iff _ isBoundary_iff.symm

theorem isBoundary_append (front back : List Char) : IsBoundary (front ++ back) (size front) :=
  ⟨front, back, rfl, rfl⟩

theorem IsBoundary.le_size {text : List Char} {offset : ℕ} (h : IsBoundary text offset) :
    offset ≤ size text := by
  obtain ⟨front, back, rfl, rfl⟩ := h
  exact size_le_append front back

/-- The later of two places between characters is a place in the text behind the earlier one. -/
theorem IsBoundary.exists_middle {text : List Char} {start stop : ℕ}
    (hstart : IsBoundary text start) (hstop : IsBoundary text stop) (hle : start ≤ stop) :
    ∃ front middle back, text = front ++ middle ++ back ∧ start = size front ∧
      stop = size (front ++ middle) := by
  obtain ⟨front, rest, rfl, rfl⟩ := hstart
  obtain ⟨longer, back, htext, rfl⟩ := hstop
  rcases List.append_eq_append_iff.mp htext with ⟨middle, rfl, rfl⟩ | ⟨middle, rfl, rfl⟩
  · exact ⟨front, middle, back, (List.append_assoc ..).symm, rfl, rfl⟩
  · -- The other way round the two places are one.
    cases middle with
    | nil => exact ⟨longer, [], rest, by simp, by simp, by simp⟩
    | cons c middle =>
      have hpos := c.utf8Size_pos
      rw [size_append, size] at hle
      omega

/-- A slice between two places holds the bytes between them. -/
theorem bytes_slice {text : List Char} {start stop : ℕ} (hstart : IsBoundary text start)
    (hstop : IsBoundary text stop) (hle : start ≤ stop) :
    bytes (slice text start stop) = ((bytes text).drop start).take (stop - start) := by
  obtain ⟨front, middle, back, rfl, rfl, rfl⟩ := hstart.exists_middle hstop hle
  rw [slice_append, size_append, Nat.add_sub_cancel_left, ← length_bytes, ← length_bytes,
    bytes_append, bytes_append, List.append_assoc, List.drop_left, List.take_left]

/-! ### Bytes -/

/-- An ASCII byte in the bytes of a text is a character of the text. -/
theorem exists_of_getElem?_bytes {d : Char} (hd : d.toNat < 0x80) {text : List Char} {n : ℕ}
    (h : (bytes text)[n]? = some d.toUInt8) :
    ∃ front back, text = front ++ d :: back ∧ n = size front := by
  induction text generalizing n with
  | nil => simp at h
  | cons c text ih =>
    rw [bytes_cons] at h
    rcases Nat.lt_or_ge n (String.utf8EncodeChar c).length with hlt | hge
    -- Within a character of more than one byte there is no ASCII byte.
    · rw [List.getElem?_append_left hlt] at h
      obtain rfl := (toUInt8_mem_utf8EncodeChar_iff hd).mp (List.mem_of_getElem? h)
      rw [utf8EncodeChar_of_lt hd, List.length_singleton, Nat.lt_one_iff] at hlt
      exact ⟨[], text, rfl, hlt⟩
    · rw [List.getElem?_append_right hge, String.length_utf8EncodeChar] at h
      obtain ⟨front, back, rfl, hn⟩ := ih h
      rw [String.length_utf8EncodeChar] at hge
      refine ⟨c :: front, back, rfl, ?_⟩
      rw [size]
      omega

/-- An ASCII byte stands where its character begins. -/
theorem getElem?_bytes_eq_some_iff {d : Char} (hd : d.toNat < 0x80) {text : List Char} {n : ℕ} :
    (bytes text)[n]? = some d.toUInt8 ↔
      ∃ front back, text = front ++ d :: back ∧ n = size front := by
  refine ⟨exists_of_getElem?_bytes hd, ?_⟩
  rintro ⟨front, back, rfl, rfl⟩
  rw [bytes_append, bytes_cons, utf8EncodeChar_of_lt hd, ← length_bytes,
    List.getElem?_append_right le_rfl, Nat.sub_self]
  rfl

/-- Where an ASCII byte stands is a place between characters. -/
theorem isBoundary_of_getElem? {d : Char} (hd : d.toNat < 0x80) {text : List Char} {n : ℕ}
    (h : (bytes text)[n]? = some d.toUInt8) : IsBoundary text n := by
  obtain ⟨front, back, rfl, rfl⟩ := exists_of_getElem?_bytes hd h
  exact isBoundary_append front (d :: back)

/-- A byte that stands in the text does so before its end. -/
theorem lt_size_of_getElem? {text : List Char} {n : ℕ} {b : UInt8}
    (h : (bytes text)[n]? = some b) : n < size text := by
  rw [← length_bytes]
  exact (List.getElem?_eq_some_iff.mp h).1

end PluginRecovery.Text
