import Mathlib
import PluginRecovery.Proofs.Pattern.Occurrence

/-!
Which of the possible matches is found. A search stops at the first place at which the pattern
matches (`leftmost_of_searchFrom?`), and fails only if there is none
(`forall_skip_of_searchFrom?`). So the matches that `searchAll` lists are all that do not overlap:
each is the leftmost behind the one before, and behind the last the pattern matches nowhere
(`enumerates_searchAll`). In a match a repetition that reads as few characters as it can reads no
more than what stands before the first place from which the match can go on
(`exists_reads_of_lazy`). One that reads as many as it can reads all that it may, if the match can
go on behind that (`run_many_of_longest`). Patterns with the same match at every place find the same
(`search?_congr`).
-/

set_option autoImplicit false
set_option relaxedAutoImplicit false

namespace PluginRecovery

open PluginRecovery.Text

/-! ### Places by number -/

/-- The place behind so many more characters, or the end of the text. -/
def Cursor.skip : ℕ → Cursor → Cursor
  | 0, at_ => at_
  | n + 1, at_ =>
    match at_.rest with
    | [] => at_
    | c :: rest => skip n (at_.after c rest)

/-- At the end of a text there is nothing to skip. -/
theorem Cursor.skip_of_rest_nil {at_ : Cursor} (h : at_.rest = []) (n : ℕ) : at_.skip n = at_ := by
  cases n with
  | zero => rfl
  | succ n => rw [skip, h]

theorem Cursor.skip_succ {at_ : Cursor} {c : Char} {rest : List Char} (h : at_.rest = c :: rest)
    (n : ℕ) : at_.skip (n + 1) = (at_.after c rest).skip n := by
  rw [skip, h]

/-- Skipping characters reads them. -/
theorem Cursor.reads_skip (at_ : Cursor) (n : ℕ) : at_.Reads (at_.rest.take n) (at_.skip n) := by
  induction n generalizing at_ with
  | zero => exact .refl at_
  | succ n ih =>
    cases hrest : at_.rest with
    | nil => rw [skip_of_rest_nil hrest]; exact .refl at_
    | cons c rest => rw [skip_succ hrest]; exact (Reads.after hrest).trans (ih _)

theorem Cursor.rest_skip (at_ : Cursor) (n : ℕ) : (at_.skip n).rest = at_.rest.drop n := by
  have hsplit := (at_.reads_skip n).1
  exact List.append_cancel_left (hsplit.symm.trans (List.take_append_drop n at_.rest).symm)

namespace Pattern

variable {p : Pattern} {at_ : Cursor} {found : Match}

/-! ### The first match -/

/-- The match is that of the first place, from the given one on, at which the pattern matches. -/
def Leftmost (p : Pattern) (at_ : Cursor) (found : Match) : Prop :=
  ∃ n, p.matchAt? (at_.skip n) = some found ∧ ∀ m < n, p.matchAt? (at_.skip m) = none

/-- A search that fails finds no match at any place. -/
theorem forall_skip_of_searchFrom? (h : p.searchFrom? at_.before at_.offset at_.rest = none) :
    ∀ n, p.matchAt? (at_.skip n) = none := by
  obtain ⟨before, text, offset⟩ := at_
  induction text generalizing before offset with
  | nil =>
    intro n
    rw [Cursor.skip_of_rest_nil rfl]
    exact h
  | cons c text ih =>
    rw [searchFrom?] at h
    cases hhere : p.matchAt? ⟨before, c :: text, offset⟩ with
    | some other => simp [hhere] at h
    | none =>
      simp only [hhere] at h
      rintro (_ | n)
      · exact hhere
      · exact ih (some c) (offset + c.utf8Size) h n

/-- What a search finds is the match of the first place that has one. -/
theorem leftmost_of_searchFrom? (h : p.searchFrom? at_.before at_.offset at_.rest = some found) :
    p.Leftmost at_ found := by
  obtain ⟨before, text, offset⟩ := at_
  induction text generalizing before offset with
  | nil => exact ⟨0, h, fun m hm ↦ absurd hm (Nat.not_lt_zero m)⟩
  | cons c text ih =>
    rw [searchFrom?] at h
    cases hhere : p.matchAt? ⟨before, c :: text, offset⟩ with
    | some other =>
      simp only [hhere] at h
      exact ⟨0, hhere.trans h, fun m hm ↦ absurd hm (Nat.not_lt_zero m)⟩
    | none =>
      simp only [hhere] at h
      obtain ⟨n, hfound, hfirst⟩ := ih (some c) (offset + c.utf8Size) h
      refine ⟨n + 1, hfound, ?_⟩
      rintro (_ | m) hm
      · exact hhere
      · exact hfirst m (Nat.lt_of_succ_lt_succ hm)

/-- Patterns with the same match at every place find the same match. -/
theorem search?_congr {q : Pattern} (h : ∀ at_, p.matchAt? at_ = q.matchAt? at_)
    (text : List Char) : p.search? text = q.search? text := by
  have hfrom (before : Option Char) (offset : ℕ) :
      p.searchFrom? before offset text = q.searchFrom? before offset text := by
    induction text generalizing before offset with
    | nil => exact h _
    | cons c text ih => rw [searchFrom?, searchFrom?, h, ih]
  exact hfrom none 0

/-! ### All matches -/

/-- The matches are all behind a place that do not overlap: each is the leftmost behind the one
before it, and behind the last one there is none. -/
inductive EnumeratesFrom (p : Pattern) : Cursor → List Match → Prop
  | done {at_ : Cursor} (h : ∀ n, p.matchAt? (at_.skip n) = none) : EnumeratesFrom p at_ []
  | next {at_ : Cursor} {found : Match} {later : List Match} (hfirst : p.Leftmost at_ found)
    (hlater : EnumeratesFrom p found.whole.stop later) : EnumeratesFrom p at_ (found :: later)

/-- The matches are all of the text that do not overlap, from left to right. -/
def Enumerates (p : Pattern) (text : List Char) (matches_ : List Match) : Prop :=
  p.EnumeratesFrom (Cursor.start text) matches_

/-- A pattern that always reads a character leaves less of the text than it was given. -/
theorem FindsFrom.length_rest_lt (hp : ¬ p.Accepts []) (h : p.FindsFrom at_ found) :
    found.whole.stop.rest.length < at_.rest.length := by
  obtain ⟨front, hfront⟩ := h.reads
  obtain ⟨whole, hwhole⟩ := h.isMatch.exists_reads
  have hne : whole ≠ [] := by
    rintro rfl
    exact hp ⟨_, _, _, _, h.isMatch, hwhole⟩
  have hpos := List.length_pos_iff.mpr hne
  rw [(hfront.trans hwhole).1, List.length_append, List.length_append]
  omega

/-- The search for all matches lists the leftmost ones that do not overlap, if the pattern reads at
least one character. -/
theorem enumeratesFrom_searchAllFrom (hp : ¬ p.Accepts []) {bound : List Char}
    (hbound : at_.rest.length ≤ bound.length) :
    p.EnumeratesFrom at_ (p.searchAllFrom bound at_) := by
  induction bound generalizing at_ with
  | nil =>
    have hnil : at_.rest = [] := List.length_eq_zero_iff.mp (Nat.le_zero.mp hbound)
    refine .done fun n ↦ Option.eq_none_iff_forall_not_mem.mpr fun found hfound ↦ ?_
    obtain ⟨stop, groups, hmatches, -⟩ := exists_matches_of_run hfound
    obtain ⟨text, htext⟩ := hmatches.exists_reads
    have hempty : text = [] := by
      have hrest := htext.1
      rw [Cursor.skip_of_rest_nil hnil, hnil] at hrest
      exact (List.append_eq_nil_iff.mp hrest.symm).1
    exact hp ⟨_, _, _, _, hmatches, hempty ▸ htext⟩
  | cons c bound ih =>
    rw [searchAllFrom]
    cases hsearch : p.searchFrom? at_.before at_.offset at_.rest with
    | none => exact .done (forall_skip_of_searchFrom? hsearch)
    | some found =>
      have hlt := (findsFrom_of_searchFrom? hsearch).length_rest_lt hp
      exact .next (leftmost_of_searchFrom? hsearch) (ih (Nat.le_of_lt_succ (hlt.trans_le hbound)))

/-- All matches are listed of a pattern that always reads a character. -/
theorem enumerates_searchAll (hp : ¬ p.Accepts []) (text : List Char) :
    p.Enumerates text (p.searchAll text) :=
  enumeratesFrom_searchAllFrom hp le_rfl

/-- A pattern whose texts end in a character does not accept the empty one. -/
theorem EndsWith.not_accepts_nil {last : Char} (h : p.EndsWith last) : ¬ p.Accepts [] := by
  intro hnil
  obtain ⟨front, hfront⟩ := h [] hnil
  exact absurd hfront.symm (List.append_ne_nil_of_right_ne_nil front (List.cons_ne_nil last []))

/-! ### Repetitions that read as few characters as they can -/

variable {α : Type}

theorem exists_skip_of_repeatOne {accepts : Char → Bool} {next : Cursor → Option α} {least : ℕ}
    {before : Option Char} {offset : ℕ} {text : List Char} {result : α}
    (h : repeatOne accepts false next least none before offset text = some result) :
    ∃ n, least ≤ n ∧ n ≤ text.length ∧ (∀ c ∈ text.take n, accepts c = true) ∧
      next (Cursor.skip n ⟨before, text, offset⟩) = some result ∧
      ∀ m, least ≤ m → m < n → next (Cursor.skip m ⟨before, text, offset⟩) = none := by
  induction text generalizing least before offset with
  | nil =>
    rw [repeatOne] at h
    split_ifs at h with hleast
    exact ⟨0, hleast.le, le_rfl, by simp, h, fun m _ hm ↦ absurd hm (Nat.not_lt_zero m)⟩
  | cons c text ih =>
    rw [repeatOne] at h
    simp only [Bool.false_eq_true, if_false] at h
    cases hnow : (if least = 0 then next ⟨before, c :: text, offset⟩ else none) with
    | some other =>
      simp only [hnow, Option.some.injEq] at h
      split_ifs at hnow with hleast
      exact ⟨0, hleast.le, Nat.zero_le _, by simp, hnow.trans (congrArg some h),
        fun m _ hm ↦ absurd hm (Nat.not_lt_zero m)⟩
    | none =>
      simp only [hnow] at h
      split_ifs at h with hmore
      obtain ⟨n, hleast, hlength, hall, hnext, hfirst⟩ := ih h
      refine ⟨n + 1, by omega, Nat.succ_le_succ hlength, ?_, hnext, ?_⟩
      · rw [List.take_succ_cons]
        exact List.forall_mem_cons.mpr ⟨(Bool.and_eq_true_iff.mp hmore).1, hall⟩
      · rintro (_ | m) hle hm
        · rw [if_pos (Nat.le_zero.mp hle)] at hnow
          exact hnow
        · exact hfirst m (by omega) (Nat.lt_of_succ_lt_succ hm)

/-- A repetition that reads as few characters as it can reads no more than what stands before the
first place from which a match can go on. -/
theorem exists_reads_of_lazy {accepts : Char → Bool} {least : ℕ} {groups : Groups}
    {next : Cursor → Groups → Option α} {result : α}
    (h : (many accepts least none false).run at_ groups next = some result) :
    ∃ text stop, at_.Reads text stop ∧ (∀ c ∈ text, accepts c = true) ∧ least ≤ text.length ∧
      next stop groups = some result ∧
      ∀ front back, at_.rest = front ++ back → least ≤ front.length →
        (∀ stop, stop.rest = back → (next stop groups).isSome = true) →
          text.length ≤ front.length := by
  obtain ⟨n, hleast, hlength, hall, hnext, hbefore⟩ := exists_skip_of_repeatOne h
  have htake : (at_.rest.take n).length = n := List.length_take_of_le hlength
  refine ⟨at_.rest.take n, at_.skip n, at_.reads_skip n, hall, by rwa [htake], hnext, ?_⟩
  intro front back hrest hfront hback
  rw [htake]
  by_contra hlt
  have hnone := hbefore front.length hfront (Nat.lt_of_not_le hlt)
  have hsome := hback (at_.skip front.length) (by rw [Cursor.rest_skip, hrest, List.drop_left])
  exact Option.isSome_iff_ne_none.mp hsome hnone

/-! ### Repetitions that read as many characters as they can -/

theorem repeatOne_of_longest {accepts : Char → Bool} {next : Cursor → Option α} {least : ℕ}
    {before : Option Char} {offset : ℕ} {front back : List Char} {result : α}
    (hfront : ∀ c ∈ front, accepts c = true) (hback : ∀ c ∈ back.head?, accepts c = false)
    (hleast : least ≤ front.length)
    (hnext : next (Cursor.skip front.length ⟨before, front ++ back, offset⟩) = some result) :
    repeatOne accepts true next least none before offset (front ++ back) = some result := by
  induction front generalizing least before offset with
  | nil =>
    obtain rfl : least = 0 := Nat.le_zero.mp hleast
    cases back with
    | nil => exact hnext
    | cons c back =>
      have hc : accepts c = false := hback c rfl
      rw [List.nil_append, repeatOne]
      simp only [hc, Bool.false_and, Bool.false_eq_true, if_false, if_true]
      exact hnext
  | cons c front ih =>
    obtain ⟨hc, hrest⟩ := List.forall_mem_cons.mp hfront
    have hlater := ih hrest (Nat.sub_le_of_le_add hleast) hnext
    rw [List.cons_append, repeatOne]
    simp only [hc, Option.map_none, hlater]
    rfl

/-- A repetition that reads as many characters as it can reads all that it may, if something is
found behind them. -/
theorem run_many_of_longest {accepts : Char → Bool} {least : ℕ} {groups : Groups}
    {next : Cursor → Groups → Option α} {front back : List Char} {result : α}
    (hrest : at_.rest = front ++ back) (hfront : ∀ c ∈ front, accepts c = true)
    (hback : ∀ c ∈ back.head?, accepts c = false) (hleast : least ≤ front.length)
    (hnext : next (at_.skip front.length) groups = some result) :
    (many accepts least none true).run at_ groups next = some result := by
  obtain ⟨before, text, offset⟩ := at_
  obtain rfl : text = front ++ back := hrest
  exact repeatOne_of_longest hfront hback hleast hnext

end Pattern

end PluginRecovery
