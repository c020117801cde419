import Mathlib
import PluginRecovery.Proofs.Script.BraceMatching

/-!
How the blocks lie in one another that the search for a closing brace finds. `literalAt` tells the
literal that a search is in when it comes to a byte, by the quotes alone. Up to the brace that it
finds, the search goes on from every byte as a search in that literal (`exists_closingFrom_at`). A
search that has one more brace to close gets further (`exists_lt_closingFrom`), so a block that is
opened inside another one, outside of literals, is closed before it (`OpensBlock.exists_closing`).
The later of two such blocks is opened as well for a search in the earlier one
(`OpensBlock.of_lt`), so the two are apart or one lies in the other (`closingBrace?_blocks`).
-/

set_option autoImplicit false
set_option relaxedAutoImplicit false

namespace PluginRecovery.Script

open PluginRecovery.Text

variable {data : List UInt8} {start stop : ℕ}

/-! ### Literals on the way of a search -/

/-- The quote of the literal that a search from `start` is in when it comes to the byte at an index.
A quote after an odd number of backslashes does not count. -/
def literalAt (data : List UInt8) (start : ℕ) : ℕ → Option UInt8
  | 0 => none
  | index + 1 =>
    match data[index]? with
    | none => literalAt data start index
    | some b =>
      if start ≤ index ∧ (b = '"'.toUInt8 ∨ b = '\''.toUInt8) ∧ isEscaped data index = false then
        toggle (literalAt data start index) b
      else literalAt data start index

/-- The search from `start` meets the open brace before `inner` outside of literals. -/
structure OpensBlock (data : List UInt8) (start inner : ℕ) : Prop where
  start_lt : start < inner
  brace : data[inner - 1]? = some '{'.toUInt8
  outside : literalAt data start (inner - 1) = none

theorem literalAt_of_le {index : ℕ} (h : index ≤ start) : literalAt data start index = none := by
  induction index with
  | zero => rfl
  | succ index ih =>
    have hnot : ¬ start ≤ index := by omega
    rw [literalAt]
    cases data[index]? with
    | none => exact ih (Nat.le_of_succ_le h)
    | some b => simpa [hnot] using ih (Nat.le_of_succ_le h)

/-- An open brace is no quote, so that it changes no literal. -/
theorem literalAt_succ_of_brace {index : ℕ} (h : data[index]? = some '{'.toUInt8) :
    literalAt data start (index + 1) = literalAt data start index := by
  have hquote : ¬ ('{'.toUInt8 = '"'.toUInt8 ∨ '{'.toUInt8 = '\''.toUInt8) := by decide
  rw [literalAt, h]
  exact if_neg fun hall ↦ hquote hall.2.1

/-- From where a search is in no literal, a search that begins there is in the same literals. -/
theorem literalAt_eq_of_none {middle index : ℕ} (hstart : start ≤ middle)
    (hnone : literalAt data start middle = none) (hle : middle ≤ index) :
    literalAt data middle index = literalAt data start index := by
  induction index, hle using Nat.le_induction with
  | base => rw [literalAt_of_le le_rfl, hnone]
  | succ index hle ih =>
    have hboth : start ≤ index ∧ middle ≤ index := ⟨hstart.trans hle, hle⟩
    rw [literalAt, literalAt, ih]
    simp only [hboth, true_and]

/-! ### The search at a byte on its way -/

/-- A byte that the search reads and does not stop at leaves it at the next one; an open brace
outside of literals leaves it with one more brace to close. -/
theorem exists_closingFrom_succ {index depth : ℕ} {b : UInt8} (hstart : start ≤ index)
    (hbyte : data[index]? = some b) (hlt : index < stop)
    (h : closingFrom (data.take index).reverse (literalAt data start index) depth index
      (data.drop index) = some stop) :
    ∃ next, closingFrom (data.take (index + 1)).reverse (literalAt data start (index + 1)) next
        (index + 1) (data.drop (index + 1)) = some stop ∧
      (literalAt data start index = none → b = '{'.toUInt8 → next = depth + 1) := by
  obtain ⟨hindex, hget⟩ := List.getElem?_eq_some_iff.mp hbyte
  have hdrop : data.drop index = b :: data.drop (index + 1) := by
    rw [← hget, List.getElem_cons_drop]
  have htake : (data.take (index + 1)).reverse = b :: (data.take index).reverse := by
    rw [List.take_add_one, hbyte]
    simp
  have hescaped : isEscaped data index = escapedAfter (data.take index).reverse := by
    simp [isEscaped, hindex.le]
  have hliteral : literalAt data start (index + 1) =
      if (b == '"'.toUInt8 || b == '\''.toUInt8) && !escapedAfter (data.take index).reverse then
        toggle (literalAt data start index) b
      else literalAt data start index := by
    rw [literalAt, hbyte]
    simp [hstart, hescaped]
  rw [hdrop] at h
  rw [htake, hliteral]
  unfold closingFrom at h
  split_ifs at h ⊢ with hquote hopen hclose
  · refine ⟨depth, h, ?_⟩
    rintro - rfl
    have hplain : ('{'.toUInt8 == '"'.toUInt8 || '{'.toUInt8 == '\''.toUInt8) = false := by
      decide
    rw [hplain] at hquote
    exact absurd hquote Bool.false_ne_true
  · exact ⟨depth + 1, h, fun _ _ ↦ rfl⟩
  · cases depth with
    | zero => exact absurd (Option.some.inj h) hlt.ne
    | succ depth =>
      refine ⟨depth, h, ?_⟩
      rintro - rfl
      have hbrace : '{'.toUInt8 ≠ '}'.toUInt8 := by decide
      exact absurd (eq_of_beq (Bool.and_eq_true_iff.mp hclose).2) hbrace
  · refine ⟨depth, h, fun hnone hbrace ↦ absurd ?_ hopen⟩
    simp [hnone, hbrace]

/-- Up to the brace that it finds, a search is at every byte a search in the literal there. -/
theorem exists_closingFrom_at {index : ℕ} (h : closingBrace? data start = some stop)
    (hstart : start ≤ index) (hstop : index ≤ stop) :
    ∃ depth, closingFrom (data.take index).reverse (literalAt data start index) depth index
      (data.drop index) = some stop := by
  induction index, hstart using Nat.le_induction with
  | base => exact ⟨0, by rw [literalAt_of_le le_rfl]; exact h⟩
  | succ index hle ih =>
    obtain ⟨depth, hdepth⟩ := ih (Nat.le_of_succ_le hstop)
    have hindex : index < data.length :=
      Nat.lt_trans hstop (List.getElem?_eq_some_iff.mp (getElem?_of_closingBrace? h).2).1
    obtain ⟨next, hnext, -⟩ :=
      exists_closingFrom_succ hle (List.getElem?_eq_getElem hindex) hstop hdepth
    exact ⟨next, hnext⟩

/-- Where a search finds a brace that has more to close, one that has less finds an earlier one. -/
theorem exists_lt_closingFrom {before rest : List UInt8} {inside : Option UInt8}
    {depth more offset : ℕ}
    (h : closingFrom before inside (depth + more + 1) offset rest = some stop) :
    ∃ inner, closingFrom before inside depth offset rest = some inner ∧ inner < stop := by
  induction rest generalizing before inside depth offset with
  | nil => simp [closingFrom] at h
  | cons b rest ih =>
    unfold closingFrom at h ⊢
    split_ifs at h ⊢ with hquote hopen hclose
    · exact ih h
    · rw [Nat.add_right_comm depth more 1] at h
      exact ih h
    · cases depth with
      | zero => exact ⟨offset, rfl, (getElem?_of_closingFrom h).1⟩
      | succ depth =>
        rw [Nat.add_right_comm depth 1 more] at h
        exact ih h
    · exact ih h

/-! ### Blocks -/

/-- A block that is opened inside another one is closed inside it. -/
theorem OpensBlock.exists_closing {inner : ℕ} (hopens : OpensBlock data start inner)
    (h : closingBrace? data start = some stop) (hle : inner ≤ stop) :
    ∃ close, closingBrace? data inner = some close ∧ inner ≤ close ∧ close < stop := by
  obtain ⟨hstart, hbrace, houtside⟩ := hopens
  obtain ⟨index, rfl⟩ := Nat.exists_eq_add_one_of_ne_zero (Nat.ne_zero_of_lt hstart)
  rw [Nat.add_sub_cancel] at hbrace houtside
  obtain ⟨depth, hdepth⟩ :=
    exists_closingFrom_at h (Nat.le_of_lt_succ hstart) (Nat.le_of_succ_le hle)
  obtain ⟨next, hnext, hone⟩ :=
    exists_closingFrom_succ (Nat.le_of_lt_succ hstart) hbrace hle hdepth
  obtain rfl := hone houtside rfl
  rw [literalAt_succ_of_brace hbrace, houtside, ← Nat.zero_add depth] at hnext
  obtain ⟨close, hclose, hlt⟩ := exists_lt_closingFrom hnext
  exact ⟨close, hclose, (getElem?_of_closingFrom hclose).1, hlt⟩

/-- Of two blocks that a search meets, the search in the earlier one meets the later one, if it gets
there. -/
theorem OpensBlock.of_lt {first second : ℕ} (hfirst : OpensBlock data start first)
    (hsecond : OpensBlock data start second) (hlt : first < second) :
    OpensBlock data first second := by
  refine ⟨hlt, hsecond.brace, ?_⟩
  have hnone : literalAt data start first = none := by
    obtain ⟨hstart, hbrace, houtside⟩ := hfirst
    obtain ⟨index, rfl⟩ := Nat.exists_eq_add_one_of_ne_zero (Nat.ne_zero_of_lt hstart)
    exact (literalAt_succ_of_brace hbrace).trans houtside
  rw [literalAt_eq_of_none hfirst.start_lt.le hnone (Nat.le_sub_one_of_lt hlt)]
  exact hsecond.outside

/-- The earlier of two blocks ends before the later one begins, or the later one lies in it. -/
theorem OpensBlock.disjoint_or_subset {first second close close' : ℕ}
    (hfirst : OpensBlock data start first) (hsecond : OpensBlock data start second)
    (hlt : first < second) (hclose : closingBrace? data first = some close)
    (hclose' : closingBrace? data second = some close') :
    Disjoint (Set.Icc (first - 1) close) (Set.Icc (second - 1) close') ∨
      Set.Icc (second - 1) close' ⊆ Set.Icc (first - 1) close := by
  have hne : second - 1 ≠ close := by
    rintro rfl
    have hbytes := hsecond.brace.symm.trans (getElem?_of_closingBrace? hclose).2
    exact absurd hbytes (by decide)
  rcases Nat.lt_or_ge close (second - 1) with hapart | hmeet
  · refine .inl (Set.disjoint_left.mpr fun index hindex hindex' ↦ ?_)
    exact absurd (hindex'.1.trans hindex.2) (Nat.not_le_of_gt hapart)
  · have hle : second ≤ close := by omega
    obtain ⟨other, hother, -, hinner⟩ := (hfirst.of_lt hsecond hlt).exists_closing hclose hle
    obtain rfl := Option.some.inj (hclose'.symm.trans hother)
    exact .inr (Set.Icc_subset_Icc (by omega) hinner.le)

/-- Every block that is opened on the way to the brace that a search finds, outside of literals, is
closed before that brace. Of two such blocks, from the open to the closing brace, either the two are
disjoint or one contains the other. -/
theorem closingBrace?_blocks (h : closingBrace? data start = some stop) :
    (∀ inner ≤ stop, OpensBlock data start inner →
      ∃ close, closingBrace? data inner = some close ∧ inner ≤ close ∧ close < stop) ∧
    ∀ first ≤ stop, ∀ second ≤ stop,
      OpensBlock data start first → OpensBlock data start second →
        ∀ close close', closingBrace? data first = some close →
          closingBrace? data second = some close' →
            Disjoint (Set.Icc (first - 1) close) (Set.Icc (second - 1) close') ∨
              Set.Icc (first - 1) close ⊆ Set.Icc (second - 1) close' ∨
              Set.Icc (second - 1) close' ⊆ Set.Icc (first - 1) close := by
  refine ⟨fun inner hle hopens ↦ hopens.exists_closing h hle, ?_⟩
  intro first _ second _ hfirst hsecond close close' hclose hclose'
  rcases Nat.lt_trichotomy first second with hlt | rfl | hlt
  · exact (hfirst.disjoint_or_subset hsecond hlt hclose hclose').imp_right .inr
  · obtain rfl := Option.some.inj (hclose.symm.trans hclose')
    exact .inr (.inl subset_rfl)
  · have hother := hsecond.disjoint_or_subset hfirst hlt hclose' hclose
    exact hother.imp (fun hdisjoint ↦ hdisjoint.symm) .inl

/-- In one block a block with a literal and a third block in it, and behind it a block with an open
brace in a literal, which opens nothing. -/
theorem closingBrace?_blocks_with_literals :
    let data := bytes "\x7ba\x7b'\x7d'\x7b\x7d\x7db\x7b\"\x7b\"\x7d\x7d".toList
    closingBrace? data 1 = some 15 ∧
      (OpensBlock data 1 3 ∧ OpensBlock data 1 7 ∧ OpensBlock data 1 11 ∧
        ¬ OpensBlock data 1 13) ∧
      (∃ close, closingBrace? data 3 = some close ∧ 3 ≤ close ∧ close < 15) ∧
      (Disjoint (Set.Icc 2 8) (Set.Icc 10 14) ∨ Set.Icc 2 8 ⊆ Set.Icc 10 14 ∨
        Set.Icc 10 14 ⊆ Set.Icc 2 8) := by
  intro data
  have hblock : closingBrace? data 1 = some 15 := by decide
  have hfirst : OpensBlock data 1 3 := ⟨by decide, by decide, by decide⟩
  have hthird : OpensBlock data 1 11 := ⟨by decide, by decide, by decide⟩
  have hliteral : ¬ OpensBlock data 1 13 := fun hopens ↦ absurd hopens.outside (by decide)
  obtain ⟨hinner, hpair⟩ := closingBrace?_blocks hblock
  exact ⟨hblock, ⟨hfirst, ⟨by decide, by decide, by decide⟩, hthird, hliteral⟩,
    hinner 3 (by decide) hfirst,
    hpair 3 (by decide) 11 (by decide) hfirst hthird 8 14 (by decide) (by decide)⟩

end PluginRecovery.Script
