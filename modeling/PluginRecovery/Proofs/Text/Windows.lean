import Mathlib
import PluginRecovery.Proofs.Text.Slices

/-!
Windows of a text with any two ends: in the wrong order, behind the end of the text, or within a
character. Of the bytes of a character the first alone begins one (`exists_utf8EncodeChar_begins`),
so one byte tells whether an offset is a place between characters (`cutsNone_iff`). The search
downwards from an offset therefore finds the greatest such place at or below it
(`boundaryFrom?_of_isGreatest`), at the latest the start of the text, and never goes below that. The
two places that a window is cut at are places of the text and in order, so that the slice between
them is there (`window?_eq`). `window_eq_between` says all this of every window, and `window_append`
what is in one that begins between two characters.
-/

set_option autoImplicit false
set_option relaxedAutoImplicit false

namespace PluginRecovery.Text

/-! ### The first byte of a character -/

theorem beginsCharacter_tailByte (n : ℕ) : beginsCharacter (tailByte n) = false := by
  have hlow : ¬ tailByte n < 0x80 := UInt8.not_lt.mpr (le_tailByte n)
  have hhigh : ¬ 0xC0 ≤ tailByte n :=
    UInt8.not_le.mpr (UInt8.lt_of_le_of_lt (tailByte_le n) (by decide))
  simp [beginsCharacter, hlow, hhigh]

theorem beginsCharacter_of_lt {b : UInt8} (h : b.toNat < 0x80) : beginsCharacter b = true := by
  have hlow : b < 0x80 := UInt8.lt_iff_toNat_lt.mpr h
  simp [beginsCharacter, hlow]

theorem beginsCharacter_of_le {b : UInt8} (h : 0xC0 ≤ b.toNat) : beginsCharacter b = true := by
  have hhigh : 0xC0 ≤ b := UInt8.le_iff_toNat_le.mpr h
  simp [beginsCharacter, hhigh]

/-- Of the bytes of a character the first begins one, and no other does. -/
theorem exists_utf8EncodeChar_begins (c : Char) :
    ∃ first tail, String.utf8EncodeChar c = first :: tail ∧ beginsCharacter first = true ∧
      ∀ b ∈ tail, beginsCharacter b = false := by
  have htails : ∀ numbers : List ℕ, ∀ b ∈ numbers.map tailByte, beginsCharacter b = false := by
    intro numbers
    simp [beginsCharacter_tailByte]
  unfold String.utf8EncodeChar
  dsimp only
  split_ifs with hone
  · refine ⟨_, [], rfl, beginsCharacter_of_lt ?_, htails []⟩
    simp only [UInt8.toNat_ofNat']
    omega
  · refine ⟨_, _, rfl, beginsCharacter_of_le ?_, htails [c.val.toNat]⟩
    simp only [UInt8.toNat_ofNat']
    omega
  · refine ⟨_, _, rfl, beginsCharacter_of_le ?_, htails [c.val.toNat / 64, c.val.toNat]⟩
    simp only [UInt8.toNat_ofNat']
    omega
  · refine ⟨_, _, rfl, beginsCharacter_of_le ?_,
      htails [c.val.toNat / 4096, c.val.toNat / 64, c.val.toNat]⟩
    simp only [UInt8.toNat_ofNat']
    omega

/-- A byte that begins a character stands where a character of the text does. -/
theorem any_beginsCharacter_iff {text : List Char} {n : ℕ} :
    (bytes text)[n]?.any beginsCharacter = true ↔
      ∃ front c back, text = front ++ c :: back ∧ n = size front := by
  constructor
  · intro h
    induction text generalizing n with
    | nil => simp at h
    | cons c text ih =>
      obtain ⟨first, tail, hbytes, -, htail⟩ := exists_utf8EncodeChar_begins c
      rcases Nat.lt_or_ge n c.utf8Size with hlt | hge
      · refine ⟨[], c, text, rfl, ?_⟩
        by_contra hne
        obtain ⟨m, rfl⟩ := Nat.exists_eq_add_one_of_ne_zero hne
        rw [bytes_cons, List.getElem?_append_left (by rwa [String.length_utf8EncodeChar]), hbytes,
          List.getElem?_cons_succ, Option.any_eq_true] at h
        obtain ⟨b, hb, hbegins⟩ := h
        exact absurd hbegins (Bool.eq_false_iff.mp (htail b (List.mem_of_getElem? hb)))
      · rw [bytes_cons, List.getElem?_append_right (by rwa [String.length_utf8EncodeChar]),
          String.length_utf8EncodeChar] at h
        obtain ⟨front, d, back, rfl, hn⟩ := ih h
        refine ⟨c :: front, d, back, rfl, ?_⟩
        rw [size]
        omega
  · rintro ⟨front, c, back, rfl, rfl⟩
    obtain ⟨first, tail, hbytes, hfirst, -⟩ := exists_utf8EncodeChar_begins c
    rw [bytes_append, bytes_cons, hbytes, ← length_bytes, List.getElem?_append_right le_rfl,
      Nat.sub_self]
    exact hfirst

/-- No character is cut exactly at the places between characters. -/
theorem cutsNone_iff {text : List Char} {index : ℕ} :
    cutsNone text index = true ↔ IsBoundary text index := by
  simp only [cutsNone, Bool.or_eq_true, beq_iff_eq, any_beginsCharacter_iff]
  constructor
  · rintro ((rfl | rfl) | ⟨front, c, back, rfl, rfl⟩)
    · exact isBoundary_append [] text
    · exact ⟨text, [], (List.append_nil text).symm, rfl⟩
    · exact isBoundary_append front (c :: back)
  · rintro ⟨front, back, rfl, rfl⟩
    cases back with
    | nil => exact .inl (.inr (by rw [List.append_nil]))
    | cons c back => exact .inr ⟨front, c, back, rfl, rfl⟩

/-! ### The search downwards -/

variable {text : List Char} {index : ℕ}

/-- The search finds the greatest place at or below its start. -/
theorem boundaryFrom?_of_isGreatest {offset : ℕ}
    (h : IsGreatest {place | IsBoundary text place ∧ place ≤ index} offset) :
    boundaryFrom? text index = some offset := by
  obtain ⟨⟨hplace, hle⟩, hgreatest⟩ := h
  induction index with
  | zero =>
    obtain rfl := Nat.le_zero.mp hle
    rw [boundaryFrom?, if_pos (cutsNone_iff.mpr hplace)]
  | succ index ih =>
    by_cases hindex : IsBoundary text (index + 1)
    · obtain rfl := Nat.le_antisymm hle (hgreatest ⟨hindex, le_rfl⟩)
      rw [boundaryFrom?, if_pos (cutsNone_iff.mpr hindex)]
    · have hne : offset ≠ index + 1 := fun heq ↦ hindex (heq ▸ hplace)
      rw [boundaryFrom?, if_neg (mt cutsNone_iff.mp hindex)]
      refine ih ?_ (Nat.le_of_lt_succ (Nat.lt_of_le_of_ne hle hne))
      rintro place ⟨hother, hbelow⟩
      exact hgreatest ⟨hother, Nat.le_succ_of_le hbelow⟩

/-- No place lies behind the text, so that its end bounds the search. -/
theorem boundaries_min_size (text : List Char) (index : ℕ) :
    {place | IsBoundary text place ∧ place ≤ min index (size text)} =
      {place | IsBoundary text place ∧ place ≤ index} := by
  ext place
  change IsBoundary text place ∧ place ≤ min index (size text) ↔
    IsBoundary text place ∧ place ≤ index
  rw [le_min_iff]
  exact and_congr_right fun hplace ↦ and_iff_left hplace.le_size

/-- The search for a boundary always finds one, and it is the greatest up to the index. -/
theorem boundaryUpTo?_eq (text : List Char) (index : ℕ) :
    boundaryUpTo? text index = some (floorBoundary text index) := by
  refine boundaryFrom?_of_isGreatest ?_
  rw [boundaries_min_size]
  exact isGreatest_floorBoundary text index

/-! ### Windows -/

theorem slice?_of_isBoundary {start stop : ℕ} (hstart : IsBoundary text start)
    (hstop : IsBoundary text stop) (hle : start ≤ stop) :
    slice? text start stop = some (slice text start stop) :=
  if_pos ⟨hle, cutsNone_iff.mpr hstart, cutsNone_iff.mpr hstop⟩

/-- The later one of two places is a place. -/
theorem isBoundary_max {first last : ℕ} (hfirst : IsBoundary text first)
    (hlast : IsBoundary text last) : IsBoundary text (max last first) := by
  rcases max_choice last first with h | h <;> rwa [h]

/-- There is always a window, and it goes from boundary to boundary. -/
theorem window?_eq (text : List Char) (start stop : ℕ) :
    window? text start stop = some (slice text (floorBoundary text start)
      (max (floorBoundary text stop) (floorBoundary text start))) := by
  have hfirst := isBoundary_floorBoundary text start
  have hlast := isBoundary_floorBoundary text stop
  have hslice := slice?_of_isBoundary hfirst (isBoundary_max hfirst hlast) (le_max_right _ _)
  simp only [window?, boundaryUpTo?_eq, Option.bind_eq_bind, Option.bind_some, hslice]

theorem window_eq_slice (text : List Char) (start stop : ℕ) :
    window text start stop = slice text (floorBoundary text start)
      (max (floorBoundary text stop) (floorBoundary text start)) := by
  rw [window, window?_eq, Option.getD_some]

/-- A window that begins between two characters holds the characters that fit behind that place. -/
theorem window_append (front back : List Char) (n : ℕ) :
    window (front ++ back) (size front) (size front + n) = takeBytes n back := by
  have hstart : floorBoundary (front ++ back) (size front) = size front := by
    rw [floorBoundary, takeBytes_size_append]
  have hstop : floorBoundary (front ++ back) (size front + n) =
      size (front ++ takeBytes n back) := by
    rw [floorBoundary, takeBytes_size_add_append]
  have hle : size front ≤ size (front ++ takeBytes n back) := size_le_append _ _
  obtain ⟨rest, hrest⟩ := takeBytes_prefix n back
  rw [window_eq_slice, hstart, hstop, max_eq_left hle]
  nth_rewrite 1 [← hrest]
  rw [← List.append_assoc, slice_append]

/-- Whatever its ends are, a window is what stands in the text between two places: the greatest at
or below the start, as far as there is text, and the greatest so for the end, unless that is before
the first. The search for each of them finds it and the slice between them is in range. -/
theorem window_eq_between (text : List Char) (start stop : ℕ) :
    ∃ first last : ℕ,
      (IsGreatest {place | IsBoundary text place ∧ place ≤ min start (size text)} first ∧
        boundaryUpTo? text start = some first) ∧
      (IsGreatest {place | IsBoundary text place ∧ place ≤ min stop (size text)} last ∧
        boundaryUpTo? text stop = some last) ∧
      max first last ≤ size text ∧
      window? text start stop = some (window text start stop) ∧
      ∃ front back, text = front ++ window text start stop ++ back ∧ size front = first ∧
        size (front ++ window text start stop) = max first last := by
  have hgreatest (index : ℕ) :
      IsGreatest {place | IsBoundary text place ∧ place ≤ min index (size text)}
        (floorBoundary text index) := by
    rw [boundaries_min_size]
    exact isGreatest_floorBoundary text index
  have hfirst := isBoundary_floorBoundary text start
  have hboth := isBoundary_max hfirst (isBoundary_floorBoundary text stop)
  obtain ⟨front, middle, back, htext, hstart, hstop⟩ :=
    hfirst.exists_middle hboth (le_max_right _ _)
  have hwindow : window text start stop = middle := by
    rw [window_eq_slice, hstop, hstart, htext, slice_append]
  refine ⟨floorBoundary text start, floorBoundary text stop,
    ⟨hgreatest start, boundaryUpTo?_eq text start⟩, ⟨hgreatest stop, boundaryUpTo?_eq text stop⟩,
    ?_, ?_, front, back, ?_, hstart.symm, ?_⟩
  · rw [max_comm]
    exact hboth.le_size
  · rw [window?_eq, window_eq_slice]
  · rw [hwindow, htext]
  · rw [hwindow, ← hstop, max_comm]

/-- Both ends within the same character, and the end before the start. -/
example : window "aé日".toList 2 5 = "é".toList ∧ window "aé日".toList 4 1 = [] := by
  decide

end PluginRecovery.Text
