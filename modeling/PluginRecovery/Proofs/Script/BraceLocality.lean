import Mathlib
import PluginRecovery.Proofs.Script.BraceMatching

/-!
What the search for a closing brace depends on. Of the bytes before its start it asks only whether
they leave the next one escaped, so that behind a front that ends in no backslash it finds what it
finds without the front (`closingBrace?_append`). It reads no further than to the brace it finds: in
a part of the data it finds the same brace or, where the part ends before it, none
(`closingBrace?_take`). `closingBrace?_local` puts the two together, for any bytes at all.
-/

set_option autoImplicit false
set_option relaxedAutoImplicit false

namespace PluginRecovery.Script

open PluginRecovery.Text

/-! ### The bytes before the start -/

/-- A text without a backslash at its end escapes nothing. -/
theorem escapedAfter_reverse_of_getLast? {front : List UInt8}
    (h : front.getLast? ≠ some '\\'.toUInt8) : escapedAfter front.reverse = false := by
  rw [← List.head?_reverse] at h
  cases hfront : front.reverse with
  | nil => rfl
  | cons last before =>
    rw [hfront, List.head?_cons, Ne, Option.some.injEq] at h
    have hplain : isBackslash last = false := beq_false_of_ne h
    rw [escapedAfter_cons, hplain, Bool.false_and]

/-- Two searches that go on alike over the same bytes find the same brace, each counted from its
own offset. -/
theorem closingFrom_add {before other : List UInt8} (h : escapedAfter other = escapedAfter before)
    (inside : Option UInt8) (depth offset n : ℕ) (data : List UInt8) :
    closingFrom other inside depth (offset + n) data =
      (closingFrom before inside depth offset data).map (· + n) := by
  induction data generalizing before other inside depth offset with
  | nil => rfl
  | cons b data ih =>
    obtain ⟨c, halike⟩ := exists_asciiAlike b
    have hbefore := closingFrom_cons halike ⟨inside, depth, escapedAfter before⟩ rfl offset data
    have hother := closingFrom_cons halike ⟨inside, depth, escapedAfter before⟩ h (offset + n) data
    have hnext : escapedAfter (b :: other) = escapedAfter (b :: before) := by
      rw [escapedAfter_cons, escapedAfter_cons, h]
    rw [hbefore, hother]
    split_ifs
    · rfl
    · rw [Nat.add_right_comm]
      exact ih hnext _ _ _

/-- Behind a front that does not end in a backslash the search finds what it finds without it. -/
theorem closingBrace?_append {front : List UInt8} (h : front.getLast? ≠ some '\\'.toUInt8)
    (back : List UInt8) :
    closingBrace? (front ++ back) front.length =
      (closingBrace? back 0).map (· + front.length) := by
  have hescaped : escapedAfter front.reverse = escapedAfter [] :=
    escapedAfter_reverse_of_getLast? h
  have hadd := closingFrom_add hescaped none 0 0 front.length back
  rw [Nat.zero_add] at hadd
  rw [closingBrace?, List.take_left, List.drop_left, hadd]
  rfl

/-! ### The bytes behind the brace -/

/-- Nothing is found before the offset that the search is at. -/
theorem filter_closingFrom_eq_none {before data : List UInt8} {inside : Option UInt8}
    {depth offset n : ℕ} (h : n ≤ offset) :
    (closingFrom before inside depth offset data).filter (· < n) = none := by
  rw [Option.filter_eq_none_iff]
  intro stop hstop
  have hle := (getElem?_of_closingFrom hstop).1
  simp only [decide_eq_true_eq]
  omega

/-- In a text that is cut off the search finds the same brace, if it stands before the cut. -/
theorem closingFrom_take (before : List UInt8) (inside : Option UInt8) (depth offset n : ℕ)
    (data : List UInt8) :
    closingFrom before inside depth offset (data.take n) =
      (closingFrom before inside depth offset data).filter (· < offset + n) := by
  induction data generalizing before inside depth offset n with
  | nil => rw [List.take_nil]; rfl
  | cons b data ih =>
    cases n with
    | zero => rw [filter_closingFrom_eq_none (Nat.add_zero offset).le, List.take_zero, closingFrom]
    | succ n =>
      obtain ⟨c, halike⟩ := exists_asciiAlike b
      have hstep := closingFrom_cons halike ⟨inside, depth, escapedAfter before⟩ rfl offset
      rw [List.take_succ_cons, hstep, hstep]
      split_ifs
      · rw [Option.filter_some_pos (by simp)]
      · rw [ih, Nat.add_right_comm, Nat.add_assoc]

/-- In a part of the data the search finds the same brace, or none if the brace is not in it. -/
theorem closingBrace?_take (data : List UInt8) (start n : ℕ) :
    closingBrace? (data.take n) start = (closingBrace? data start).filter (· < n) := by
  rcases Nat.le_total start n with hle | hle
  · rw [closingBrace?, closingBrace?, List.take_take, min_eq_left hle, List.drop_take,
      closingFrom_take, Nat.add_sub_cancel' hle]
  · have hlength : (data.take n).length ≤ start := (List.length_take_le n data).trans hle
    rw [closingBrace?, closingBrace?, filter_closingFrom_eq_none hle,
      List.drop_eq_nil_of_le hlength, closingFrom]

/-! ### Locality -/

/-- A brace that is found stands at the start or later, and is found again whatever comes behind it
and whatever is put before the start, unless it ends in a backslash; not when the data end before
it. Where none is found none is found in a part of the data, nor is one behind their end. -/
theorem closingBrace?_local (data : List UInt8) (start : ℕ) :
    (∀ stop, closingBrace? data start = some stop →
      (start ≤ stop ∧ stop < data.length ∧ data[stop]? = some '}'.toUInt8) ∧
      (∀ rest, closingBrace? (data.take (stop + 1) ++ rest) start = some stop) ∧
      (∀ n ≤ stop, closingBrace? (data.take n) start = none) ∧
      ((data.take start).getLast? ≠ some '\\'.toUInt8 →
        ∀ front : List UInt8, front.getLast? ≠ some '\\'.toUInt8 →
          closingBrace? (front ++ data.drop start) front.length =
            some (stop - start + front.length))) ∧
    (closingBrace? data start = none → ∀ n, closingBrace? (data.take n) start = none) ∧
    (data.length ≤ start → closingBrace? data start = none) := by
  refine ⟨fun stop h ↦ ?_, fun h n ↦ ?_, fun h ↦ ?_⟩
  · obtain ⟨hle, hbyte⟩ := getElem?_of_closingBrace? h
    obtain ⟨hlt, -⟩ := List.getElem?_eq_some_iff.mp hbyte
    refine ⟨⟨hle, hlt, hbyte⟩, fun rest ↦ ?_, fun n hn ↦ ?_, fun hstart front hfront ↦ ?_⟩
    · -- Both data are the same up to the brace.
      have hlength : (data.take (stop + 1)).length = stop + 1 := List.length_take_of_le hlt
      have htake := closingBrace?_take (data.take (stop + 1) ++ rest) start (stop + 1)
      rw [List.take_left' hlength, closingBrace?_take, h] at htake
      rw [Option.filter_some_pos (by simp)] at htake
      exact (Option.filter_eq_some_iff.mp htake.symm).1
    · rw [closingBrace?_take, h]
      simpa using hn
    · have hlength : (data.take start).length = start := List.length_take_of_le (by omega)
      have hhere := closingBrace?_append hstart (data.drop start)
      rw [List.take_append_drop, hlength, h] at hhere
      obtain ⟨found, hfound, hstop⟩ := Option.map_eq_some_iff.mp hhere.symm
      rw [closingBrace?_append hfront, hfound, ← hstop, Nat.add_sub_cancel]
      rfl
  · rw [closingBrace?_take, h]
    rfl
  · rw [closingBrace?, List.drop_eq_nil_of_le h]
    rfl

/-- The brace behind a literal with an escaped quote and a brace in it: an open literal may follow,
the front may be longer. Without the brace, or behind the end, there is none to find. -/
theorem closingBrace?_local_behind_literal :
    let data := bytes "x\x7b'\\'\x7d'\x7d é\"".toList
    closingBrace? data 2 = some 7 ∧
      closingBrace? (data.take 8 ++ bytes "'\\".toList) 2 = some 7 ∧
      closingBrace? (data.take 7) 2 = none ∧
      closingBrace? (bytes "é'\x7b".toList ++ data.drop 2) 4 = some 9 ∧
      closingBrace? data 8 = none ∧ closingBrace? (data.take 10) 8 = none ∧
      closingBrace? data 12 = none := by
  intro data
  have hfound : closingBrace? data 2 = some 7 := by
    decide
  have hnone : closingBrace? data 8 = none := by
    decide
  obtain ⟨-, hrest, htake, hfront⟩ := (closingBrace?_local data 2).1 7 hfound
  exact ⟨hfound, hrest _, htake 7 le_rfl, hfront (by decide) (bytes "é'\x7b".toList) (by decide),
    hnone, (closingBrace?_local data 8).2.1 hnone 10, (closingBrace?_local data 12).2.2 (by decide)⟩

end PluginRecovery.Script
