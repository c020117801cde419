import Mathlib
import PluginRecovery.Proofs.Dictionary
import PluginRecovery.Text.Blank
import PluginRecovery.Text.LetterCase

/-!
Case mappings and white space. The form of a character comes from a row or an entry of a table, or is
the character itself (`mapCase_cases`). The tables of letter case have no white space in them, on
neither side (`AvoidsBlanks`), so a text is blank exactly when its mapped form is: `blank_upperForm`
and `blank_lowerForm` for one character, `blank_lower` for a text. Lower-case forms are of one
character but for one, and none but the underscore has an underscore in its form
(`lowerForm_cases`). A small letter of ASCII is the form of itself and its capital, and `k` of the
Kelvin sign as well (`lowerForm_eq_singleton_iff`). So a word of small letters is in the lower-case
form of a text where the text spells it with such characters (`isInfix_lower_iff`).
-/

set_option autoImplicit false
set_option relaxedAutoImplicit false

namespace PluginRecovery.Text

/-! ### White space by code points -/

/-- The code points of white space, as ranges. -/
def blankRanges : List (ℕ × ℕ) :=
  [(9, 13), (0x20, 0x20), (0x85, 0x85), (0xA0, 0xA0), (0x1680, 0x1680), (0x2000, 0x200A),
    (0x2028, 0x2029), (0x202F, 0x202F), (0x205F, 0x205F), (0x3000, 0x3000)]

theorem exists_mem_blankRanges {c : Char} (h : isBlank c = true) :
    ∃ range ∈ blankRanges, range.1 ≤ c.toNat ∧ c.toNat ≤ range.2 := by
  simp only [isBlank, Bool.or_eq_true, Bool.and_eq_true, decide_eq_true_eq, beq_iff_eq] at h
  simp only [blankRanges, List.exists_mem_cons_iff, List.not_mem_nil, false_and, exists_false,
    or_false]
  omega

theorem isBlank_eq_false {c : Char}
    (h : ∀ range ∈ blankRanges, c.toNat < range.1 ∨ range.2 < c.toNat) : isBlank c = false := by
  rw [← Bool.not_eq_true]
  intro hblank
  obtain ⟨range, hrange, hlow, hhigh⟩ := exists_mem_blankRanges hblank
  have houtside := h range hrange
  omega

/-- A number that is no code point stands for U+0000. -/
theorem toNat_ofNat_eq_or (n : ℕ) : (Char.ofNat n).toNat = n ∨ (Char.ofNat n).toNat = 0 := by
  rw [Char.toNat_ofNat]
  split_ifs
  · exact .inl rfl
  · exact .inr rfl

theorem isBlank_ofNat_eq_false {n : ℕ} (h : ∀ range ∈ blankRanges, n < range.1 ∨ range.2 < n) :
    isBlank (Char.ofNat n) = false := by
  apply isBlank_eq_false
  rcases toNat_ofNat_eq_or n with hn | hn
  · rwa [hn]
  · rw [hn]
    decide

/-! ### Tables of letter case -/

/-- The form of a character comes from a row that covers it, or else from its entry among the long
forms, or it is the character itself. -/
theorem mapCase_cases (runs : List CaseRun) (long : List (ℕ × List ℕ)) (c : Char) :
    (∃ first last step form, (first, last, step, form) ∈ runs ∧
      (first ≤ c.toNat ∧ c.toNat ≤ last ∧ (c.toNat - first) % step = 0) ∧
      mapCase runs long c = [Char.ofNat (c.toNat + form - first)]) ∨
    (∃ form, (c.toNat, form) ∈ long ∧ mapCase runs long c = form.map Char.ofNat) ∨
    mapCase runs long c = [c] := by
  unfold mapCase
  extract_lets n covers
  cases hrun : runs.find? covers with
  | some run =>
    obtain ⟨first, last, step, form⟩ := run
    have hcovers := List.find?_some hrun
    simp only [covers, Bool.and_eq_true, decide_eq_true_eq, beq_iff_eq, and_assoc] at hcovers
    exact .inl ⟨first, last, step, form, List.mem_of_find?_eq_some hrun, hcovers, rfl⟩
  | none =>
    cases hlong : long.lookup n with
    | some form => exact .inr (.inl ⟨form, Dictionary.mem_of_lookup hlong, rfl⟩)
    | none => exact .inr (.inr rfl)

/-- White space is neither in a row of the tables nor among the forms there. -/
def AvoidsBlanks (runs : List CaseRun) (long : List (ℕ × List ℕ)) : Prop :=
  (∀ run ∈ runs, ∀ range ∈ blankRanges, (range.2 < run.1 ∨ run.2.1 < range.1) ∧
    (range.2 < run.2.2.2 ∨ run.2.2.2 + (run.2.1 - run.1) < range.1)) ∧
  ∀ entry ∈ long, (∀ range ∈ blankRanges, entry.1 < range.1 ∨ range.2 < entry.1) ∧
    blank (entry.2.map Char.ofNat) = false

instance (runs : List CaseRun) (long : List (ℕ × List ℕ)) : Decidable (AvoidsBlanks runs long) :=
  inferInstanceAs (Decidable (_ ∧ _))

theorem avoidsBlanks_upper : AvoidsBlanks upperRuns upperLong := by
  decide +kernel

theorem avoidsBlanks_lower : AvoidsBlanks lowerRuns lowerLong := by
  decide +kernel

/-- By tables without white space, the form of a character is blank exactly when the character
is. -/
theorem blank_mapCase {runs : List CaseRun} {long : List (ℕ × List ℕ)}
    (h : AvoidsBlanks runs long) (c : Char) : blank (mapCase runs long c) = isBlank c := by
  rcases mapCase_cases runs long c with
    ⟨first, last, step, form, hrun, hcovers, hmap⟩ | ⟨form, hentry, hmap⟩ | hmap
  · have hc : isBlank c = false := by
      refine isBlank_eq_false fun range hrange ↦ ?_
      have hrow := (h.1 _ hrun range hrange).1
      simp only at hrow
      omega
    have hform : isBlank (Char.ofNat (c.toNat + form - first)) = false := by
      refine isBlank_ofNat_eq_false fun range hrange ↦ ?_
      have hrow := (h.1 _ hrun range hrange).2
      simp only at hrow
      omega
    simp [hmap, blank, hc, hform]
  · obtain ⟨hcode, hform⟩ := h.2 _ hentry
    rw [hmap, hform, isBlank_eq_false hcode]
  · simp [hmap, blank]

/-! ### Upper and lower case -/

/-- What holds of the characters of the code points below a bound holds of each character below. -/
theorem forall_of_ofNat {bound : ℕ} {P : Char → Prop} (h : ∀ n < bound, P (Char.ofNat n)) {c : Char}
    (hc : c.toNat < bound) : P c := by
  rw [← Char.ofNat_toNat c]
  exact h c.toNat hc

theorem isBlank_toUpper_of_lt {c : Char} (h : c.toNat < 128) : isBlank c.toUpper = isBlank c :=
  forall_of_ofNat (P := fun c ↦ isBlank c.toUpper = isBlank c) (by decide) h

theorem isBlank_toLower_of_lt {c : Char} (h : c.toNat < 128) : isBlank c.toLower = isBlank c :=
  forall_of_ofNat (P := fun c ↦ isBlank c.toLower = isBlank c) (by decide) h

/-- Beyond ASCII the case mapping of ASCII letters changes nothing. -/
theorem toLower_of_le {c : Char} (h : 128 ≤ c.toNat) : c.toLower = c := by
  have hnot : ¬ (c.val ≥ 'A'.val ∧ c.val ≤ 'Z'.val) := by
    rintro ⟨-, hle⟩
    have hle' : c.toNat ≤ 'Z'.toNat := UInt32.le_iff_toNat_le.mp hle
    have hz : 'Z'.toNat = 90 := rfl
    omega
  rw [Char.toLower, dif_neg hnot]

/-- The case mapping of ASCII letters leaves white space as it is. -/
theorem isBlank_toLower (c : Char) : isBlank c.toLower = isBlank c := by
  rcases Nat.lt_or_ge c.toNat 128 with hascii | hbeyond
  · exact isBlank_toLower_of_lt hascii
  · rw [toLower_of_le hbeyond]

/-- The upper-case form of a character is blank exactly when the character is. -/
theorem blank_upperForm (c : Char) : blank (upperForm c) = isBlank c := by
  rw [upperForm]
  split_ifs with hascii
  · rw [← isBlank_toUpper_of_lt hascii]
    simp [blank]
  · exact blank_mapCase avoidsBlanks_upper c

/-- The lower-case form of a character is blank exactly when the character is. -/
theorem blank_lowerForm (c : Char) : blank (lowerForm c) = isBlank c := by
  rw [lowerForm]
  split_ifs with hascii
  · rw [← isBlank_toLower_of_lt hascii]
    simp [blank]
  · exact blank_mapCase avoidsBlanks_lower c

theorem lower_cons (c : Char) (text : List Char) : lower (c :: text) = lowerForm c ++ lower text :=
  List.flatMap_cons

/-- A text with a lower-case form in ASCII, letter by letter, has that form. -/
theorem lower_eq_of_map_toLower {text form : List Char} (h : text.map Char.toLower = form)
    (hform : ∀ c ∈ form, c.toNat < 128) : lower text = form := by
  subst h
  induction text with
  | nil => rfl
  | cons c text ih =>
    rw [List.map_cons, List.forall_mem_cons] at hform
    have hascii : c.toNat < 128 := by
      by_contra hbeyond
      rw [toLower_of_le (Nat.le_of_not_lt hbeyond)] at hform
      exact hbeyond hform.1
    rw [lower_cons, ih hform.2, lowerForm, if_pos hascii]
    rfl

/-- A text in lower case is blank exactly when the text is. -/
theorem blank_lower (text : List Char) : blank (lower text) = blank text := by
  induction text with
  | nil => rfl
  | cons c rest ih =>
    have hrest : blank (lower (c :: rest)) = (blank (lowerForm c) && blank (lower rest)) := by
      rw [lower_cons, blank, List.all_append]
      rfl
    rw [hrest, blank_lowerForm, ih]
    rfl

/-! ### Forms of one character -/

theorem lowerRuns_forms : ∀ run ∈ lowerRuns, '_'.toNat < run.2.2.2 := by
  decide +kernel

theorem eq_of_mem_lowerLong {n : ℕ} {form : List ℕ} (h : (n, form) ∈ lowerLong) :
    form = [0x69, 0x307] :=
  (Prod.mk.inj (List.mem_singleton.mp h)).2

/-- One character has a lower-case form of two; the underscore is the form of no other character. -/
theorem lowerForm_cases (c : Char) :
    lowerForm c = ['i', '\u0307'] ∨ ∃ d, lowerForm c = [d] ∧ (d = '_' → c = '_') := by
  rw [lowerForm]
  split_ifs with hascii
  · exact .inr ⟨c.toLower, rfl,
      forall_of_ofNat (P := fun c ↦ c.toLower = '_' → c = '_') (by decide) hascii⟩
  rcases mapCase_cases lowerRuns lowerLong c with
    ⟨first, last, step, form, hrun, hcovers, hmap⟩ | ⟨form, hentry, hmap⟩ | hmap
  · refine .inr ⟨_, hmap, fun h ↦ ?_⟩
    have hform : '_'.toNat < form := lowerRuns_forms _ hrun
    have hunderscore : '_'.toNat ≠ 0 := by decide
    have hcode := toNat_ofNat_eq_or (c.toNat + form - first)
    rw [h] at hcode
    omega
  · obtain rfl := eq_of_mem_lowerLong hentry
    exact .inl hmap
  · exact .inr ⟨c, hmap, id⟩

theorem eq_underscore_of_mem_lowerForm {c : Char} (h : '_' ∈ lowerForm c) : c = '_' := by
  rcases lowerForm_cases c with hform | ⟨d, hform, hd⟩
  · rw [hform] at h
    exact absurd h (by decide)
  · rw [hform, List.mem_singleton] at h
    exact hd h.symm

/-- A text begins with an underscore if its lower-case form does. -/
theorem head?_eq_underscore_of_lower {text : List Char} (h : (lower text).head? = some '_') :
    text.head? = some '_' := by
  cases text with
  | nil => exact absurd h (by simp [lower])
  | cons c text =>
    rw [lower_cons] at h
    rcases lowerForm_cases c with hform | ⟨d, hform, hd⟩
    · rw [hform] at h
      exact absurd h (by simp)
    · rw [hform] at h
      exact congrArg some (hd (Option.some.inj h))

/-- A front without the letter of a form of two is the form of as many characters. -/
theorem lower_eq_append_lower_drop {front text : List Char} (h : front <+: lower text)
    (hi : 'i' ∉ front) : lower text = front ++ lower (text.drop front.length) := by
  induction front generalizing text with
  | nil => rfl
  | cons first front ih =>
    rw [List.mem_cons, not_or] at hi
    cases text with
    | nil => exact absurd h (by simp [lower])
    | cons c text =>
      rw [lower_cons] at h ⊢
      rcases lowerForm_cases c with hform | ⟨d, hform, -⟩
      · rw [hform] at h
        exact absurd (List.cons_prefix_cons.mp h).1.symm hi.1
      · rw [hform] at h ⊢
        obtain ⟨rfl, hrest⟩ := List.cons_prefix_cons.mp h
        rw [List.singleton_append, ih hrest hi.2]
        rfl

/-! ### Words of small letters -/

/-- A letter of ASCII in lower case. -/
def IsSmall (c : Char) : Prop :=
  'a'.toNat ≤ c.toNat ∧ c.toNat ≤ 'z'.toNat

instance : DecidablePred IsSmall :=
  fun _ ↦ inferInstanceAs (Decidable (_ ∧ _))

/-- No row beyond ASCII but that of the Kelvin sign has forms within. -/
theorem lowerRuns_beyond : ∀ run ∈ lowerRuns,
    run.2.1 < 128 ∨ 128 ≤ run.2.2.2 ∨ run = (0x212A, 0x212A, 1, 'k'.toNat) := by
  decide +kernel

/-- Beyond ASCII no small letter is the form of a character, but for `k` of the Kelvin sign. -/
theorem eq_kelvin_of_lowerForm_eq {letter c : Char} (h : IsSmall letter) (hc : 128 ≤ c.toNat)
    (hform : lowerForm c = [letter]) : letter = 'k' ∧ c = '\u212A' := by
  obtain ⟨ha, hz⟩ : 97 ≤ letter.toNat ∧ letter.toNat ≤ 122 := h
  rw [lowerForm, if_neg (Nat.not_lt.mpr hc)] at hform
  rcases mapCase_cases lowerRuns lowerLong c with
    ⟨first, last, step, form, hrun, hcovers, hmap⟩ | ⟨form, hentry, hmap⟩ | hmap
  · have hletter := (List.cons.inj (hmap.symm.trans hform)).1
    have hcode := toNat_ofNat_eq_or (c.toNat + form - first)
    rw [hletter] at hcode
    rcases lowerRuns_beyond _ hrun with hlast | hfirst | hkelvin
    · simp only at hlast
      omega
    · simp only at hfirst
      omega
    · obtain ⟨rfl, rfl, rfl, rfl⟩ :
          first = 0x212A ∧ last = 0x212A ∧ step = 1 ∧ form = 'k'.toNat := by
        simpa only [Prod.mk.injEq] using hkelvin
      have hn : c.toNat = 0x212A := by omega
      constructor
      · rw [← hletter, hn]
        rfl
      · rw [← Char.ofNat_toNat c, hn]
  · rw [hmap, eq_of_mem_lowerLong hentry] at hform
    exact absurd (List.cons.inj hform).2 (by simp)
  · have hletter := (List.cons.inj (hmap.symm.trans hform)).1
    rw [hletter] at hc
    omega

/-- A small letter is the form of itself and its capital, and `k` of the Kelvin sign as well. -/
theorem lowerForm_eq_singleton_iff {letter c : Char} (h : IsSmall letter) :
    lowerForm c = [letter] ↔ c.toLower = letter ∨ letter = 'k' ∧ c = '\u212A' := by
  constructor
  · intro hform
    rcases Nat.lt_or_ge c.toNat 128 with hascii | hbeyond
    · rw [lowerForm, if_pos hascii] at hform
      exact .inl (List.cons.inj hform).1
    · exact .inr (eq_kelvin_of_lowerForm_eq h hbeyond hform)
  · rintro (rfl | ⟨rfl, rfl⟩)
    · have hascii : c.toNat < 128 := by
        by_contra hbeyond
        have hz : c.toLower.toNat ≤ 122 := h.2
        rw [toLower_of_le (Nat.le_of_not_lt hbeyond)] at hz
        omega
      rw [lowerForm, if_pos hascii]
    · decide +kernel

/-- A word of small letters begins the form of a text if the text begins with what spells it. The
word must not end in the letter that begins a form of two characters. -/
theorem isPrefix_lower_iff {word text : List Char} (hword : ∀ letter ∈ word, IsSmall letter)
    (hi : word.getLast? ≠ some 'i') :
    word <+: lower text ↔
      ∃ part, part <+: text ∧ List.Forall₂ (fun letter c ↦ lowerForm c = [letter]) word part := by
  induction word generalizing text with
  | nil => exact ⟨fun _ ↦ ⟨[], List.nil_prefix, .nil⟩, fun _ ↦ List.nil_prefix⟩
  | cons letter word ih =>
    obtain ⟨hletter, hsmall⟩ := List.forall_mem_cons.mp hword
    have hi' : word.getLast? ≠ some 'i' := fun h ↦ hi (by rw [List.getLast?_cons, h]; rfl)
    cases text with
    | nil => simp [lower, List.forall₂_cons_left_iff]
    | cons c text =>
      rw [lower_cons]
      rcases lowerForm_cases c with hform | ⟨d, hform, -⟩
      · have hnot : ¬ letter :: word <+: lowerForm c ++ lower text := by
          rw [hform]
          intro hprefix
          obtain ⟨rfl, hrest⟩ := List.cons_prefix_cons.mp hprefix
          cases word with
          | nil => exact hi rfl
          | cons second word =>
            obtain ⟨rfl, -⟩ := List.cons_prefix_cons.mp hrest
            exact absurd (hsmall _ List.mem_cons_self) (by decide)
        refine ⟨fun h ↦ absurd h hnot, ?_⟩
        rintro ⟨part, hpart, hspells⟩
        obtain ⟨first, rest, hfirst, -, rfl⟩ := List.forall₂_cons_left_iff.mp hspells
        obtain ⟨rfl, -⟩ := List.cons_prefix_cons.mp hpart
        rw [hform] at hfirst
        exact absurd hfirst (by simp)
      · rw [hform, List.singleton_append, List.cons_prefix_cons, ih hsmall hi']
        constructor
        · rintro ⟨rfl, part, hpart, hspells⟩
          exact ⟨c :: part, List.cons_prefix_cons.mpr ⟨rfl, hpart⟩, .cons hform hspells⟩
        · rintro ⟨part, hpart, hspells⟩
          obtain ⟨first, rest, hfirst, hrest, rfl⟩ := List.forall₂_cons_left_iff.mp hspells
          obtain ⟨rfl, hbehind⟩ := List.cons_prefix_cons.mp hpart
          exact ⟨(List.cons.inj (hfirst.symm.trans hform)).1, rest, hbehind, hrest⟩

/-- A word in the form of a text begins it, or is in the form of all but the first character. -/
theorem isInfix_lower_cons_iff {word : List Char} (hword : ∀ letter ∈ word, IsSmall letter)
    (c : Char) (text : List Char) :
    word <:+: lower (c :: text) ↔ word <+: lower (c :: text) ∨ word <:+: lower text := by
  rw [lower_cons]
  rcases lowerForm_cases c with hform | ⟨d, hform, -⟩
  · have hinside : word <+: '\u0307' :: lower text → word <:+: lower text := by
      cases word with
      | nil => exact fun _ ↦ List.nil_infix
      | cons letter word =>
        intro hprefix
        obtain ⟨rfl, -⟩ := List.cons_prefix_cons.mp hprefix
        exact absurd (hword _ List.mem_cons_self) (by decide)
    rw [hform, List.cons_append, List.singleton_append, List.infix_cons_iff, List.infix_cons_iff]
    exact or_congr_right ⟨fun h ↦ h.elim hinside id, .inr⟩
  · rw [hform, List.singleton_append, List.infix_cons_iff]

/-- A word of small letters is in the form of a text if the text spells it somewhere. -/
theorem isInfix_lower_iff {word text : List Char} (hword : ∀ letter ∈ word, IsSmall letter)
    (hi : word.getLast? ≠ some 'i') :
    word <:+: lower text ↔
      ∃ part, part <:+: text ∧ List.Forall₂ (fun letter c ↦ lowerForm c = [letter]) word part := by
  induction text with
  | nil => simp [lower]
  | cons c text ih =>
    rw [isInfix_lower_cons_iff hword, isPrefix_lower_iff hword hi, ih]
    simp only [List.infix_cons_iff, or_and_right, exists_or]

end PluginRecovery.Text
