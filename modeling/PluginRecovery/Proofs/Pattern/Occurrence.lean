import Mathlib
import PluginRecovery.Proofs.Pattern.Placement

/-!
When a pattern occurs in a text. It occurs only in texts with a part that it accepts
(`exists_accepts_of_occursIn`). The other way round, a part of a text that the pattern `CanRead`
makes it occur (`CanRead.occursIn`): a run gets past such a part wherever it stands, unless it has
found something before. What a pattern can read is told by its parts, as acceptance is.
-/

set_option autoImplicit false
set_option relaxedAutoImplicit false

namespace PluginRecovery.Pattern

open PluginRecovery.Text

/-- Wherever the part stands, a run finds something if what goes on behind the part does. -/
def CanRead (p : Pattern) (part : List Char) : Prop :=
  ∀ (α : Type) (start : Cursor) (groups : Groups) (next : Cursor → Groups → Option α)
    (rest : List Char), start.rest = part ++ rest →
      (∀ stop kept, stop.rest = rest → (next stop kept).isSome = true) →
        (p.run start groups next).isSome = true

variable {part front back : List Char}

/-- Parts that are read are read one behind the other. -/
theorem CanRead.append {first second : Pattern} (hfirst : first.CanRead front)
    (hsecond : second.CanRead back) : (first ++ second).CanRead (front ++ back) := by
  intro α start groups next rest hrest hnext
  refine hfirst α start groups _ (back ++ rest) (by rw [hrest, List.append_assoc]) ?_
  exact fun middle kept hmiddle ↦ hsecond α middle kept next rest hmiddle hnext

theorem canRead_one {accepts : Char → Bool} {c : Char} (hc : accepts c = true) :
    (one accepts).CanRead [c] := by
  intro α start groups next rest hrest hnext
  rw [run, hrest]
  simp only [List.cons_append, List.nil_append, hc, if_true]
  exact hnext _ _ rfl

theorem canRead_empty : empty.CanRead [] :=
  fun _ start groups _ _ hrest hnext ↦ hnext start groups hrest

theorem CanRead.altFirst {first : Pattern} (h : first.CanRead part) (second : Pattern) :
    (alt first second).CanRead part := by
  intro α start groups next rest hrest hnext
  obtain ⟨found, hfound⟩ := Option.isSome_iff_exists.mp (h α start groups next rest hrest hnext)
  rw [run, hfound]
  rfl

theorem CanRead.altSecond {second : Pattern} (first : Pattern) (h : second.CanRead part) :
    (alt first second).CanRead part := by
  intro α start groups next rest hrest hnext
  rw [run]
  cases first.run start groups next with
  | some found => rfl
  | none => exact h α start groups next rest hrest hnext

/-- Of several patterns one that reads the part is enough. -/
theorem CanRead.firstOf {patterns : List Pattern} {p : Pattern} (hp : p ∈ patterns)
    (h : p.CanRead part) : (firstOf patterns).CanRead part := by
  induction patterns with
  | nil => exact absurd hp List.not_mem_nil
  | cons first patterns ih =>
    cases patterns with
    | nil => exact List.mem_singleton.mp hp ▸ h
    | cons next patterns =>
      rcases List.mem_cons.mp hp with rfl | hp
      · exact h.altFirst _
      · exact .altSecond first (ih hp)

theorem CanRead.group {body : Pattern} (h : body.CanRead part) (number : ℕ) :
    (group number body).CanRead part :=
  fun α start groups _ rest hrest hnext ↦
    h α start groups _ rest hrest fun stop _ hstop ↦ hnext stop _ hstop

theorem canRead_optional_nil (p : Pattern) : (optional p).CanRead [] :=
  CanRead.altSecond p canRead_empty

/-- Letters are read as their class allows, one by one. -/
theorem canRead_foldr {fits : Char → Char → Bool} {letters : List Char}
    (h : List.Forall₂ (fun letter c ↦ fits letter c = true) letters part) :
    (letters.foldr (fun c rest ↦ seq (one (fits c)) rest) empty).CanRead part := by
  induction h with
  | nil => exact canRead_empty
  | cons hletter _ ih => exact (canRead_one hletter).append ih

theorem canRead_literal (text : String) : (literal text).CanRead text.toList :=
  canRead_foldr (List.forall₂_same.mpr fun _ _ ↦ beq_self_eq_true _)

/-- A repetition reads all of a part that it may read, unless it finds something before. -/
theorem isSome_repeatOne {α : Type} {accepts : Char → Bool} (greedy : Bool)
    {next : Cursor → Option α} {least : ℕ} {most : Option ℕ} {before : Option Char} {offset : ℕ}
    {rest : List Char} (hall : ∀ c ∈ part, accepts c = true) (hleast : least ≤ part.length)
    (hmost : ∀ bound ∈ most, part.length ≤ bound)
    (hnext : ∀ stop, stop.rest = rest → (next stop).isSome = true) :
    (repeatOne accepts greedy next least most before offset (part ++ rest)).isSome = true := by
  induction part generalizing least most before offset with
  | nil =>
    obtain rfl : least = 0 := Nat.le_zero.mp hleast
    have hhere := hnext ⟨before, rest, offset⟩ rfl
    cases rest with
    | nil => simpa [repeatOne] using hhere
    | cons c rest =>
      rw [List.nil_append, repeatOne]
      cases greedy <;> grind
  | cons c part ih =>
    obtain ⟨hc, hpart⟩ := List.forall_mem_cons.mp hall
    have hmore : (accepts c && most != some 0) = true := by
      have hne : most ≠ some 0 := by
        rintro rfl
        exact absurd (hmost 0 rfl) (by simp)
      simpa [hc] using hne
    have hrest := @ih (least - 1) (most.map (· - 1)) (some c) (offset + c.utf8Size) hpart
      (by simpa using hleast) (by
        intro bound hbound
        obtain ⟨bound, hmem, rfl⟩ := Option.map_eq_some_iff.mp hbound
        exact Nat.le_sub_one_of_lt (hmost bound hmem))
    obtain ⟨found, hfound⟩ := Option.isSome_iff_exists.mp hrest
    rw [List.cons_append, repeatOne]
    simp only [hmore, hfound]
    cases greedy <;> grind

/-- A repetition reads characters of its class if they are as many as it may. -/
theorem canRead_many {accepts : Char → Bool} {least : ℕ} {most : Option ℕ} (greedy : Bool)
    (hall : ∀ c ∈ part, accepts c = true) (hleast : least ≤ part.length)
    (hmost : ∀ bound ∈ most, part.length ≤ bound) :
    (many accepts least most greedy).CanRead part := by
  intro α start groups next rest hrest hnext
  rw [run, hrest]
  exact isSome_repeatOne greedy hall hleast hmost fun stop hstop ↦ hnext stop groups hstop

theorem canRead_anyNumber {accepts : Char → Bool} (hall : ∀ c ∈ part, accepts c = true) :
    (anyNumber accepts).CanRead part :=
  canRead_many true hall (Nat.zero_le _) (by simp)

theorem canRead_gap (h : blank part = true) : gap.CanRead part :=
  canRead_anyNumber (List.all_eq_true.mp h)

/-! ### Occurrence -/

/-- Where the part stands there is a match. -/
theorem CanRead.isSome_matchAt? {p : Pattern} (h : p.CanRead part) {at_ : Cursor}
    (hrest : at_.rest = part ++ back) : (p.matchAt? at_).isSome = true :=
  h _ _ _ _ back hrest fun _ _ _ ↦ rfl

/-- A search comes upon a part that the pattern can read, if it has found nothing before. -/
theorem CanRead.isSome_searchFrom? {p : Pattern} (h : p.CanRead part) (before : Option Char)
    (offset : ℕ) (front back : List Char) :
    (p.searchFrom? before offset (front ++ (part ++ back))).isSome = true := by
  have hhere (before : Option Char) (offset : ℕ) :
      (p.matchAt? ⟨before, part ++ back, offset⟩).isSome = true :=
    h.isSome_matchAt? rfl
  induction front generalizing before offset with
  | nil =>
    obtain ⟨found, hfound⟩ := Option.isSome_iff_exists.mp (hhere before offset)
    rw [List.nil_append]
    cases hrest : part ++ back with
    | nil => rw [searchFrom?, ← hrest, hfound]; rfl
    | cons c rest => rw [searchFrom?, ← hrest, hfound]; rfl
  | cons c front ih =>
    rw [List.cons_append, searchFrom?]
    cases p.matchAt? ⟨before, c :: (front ++ (part ++ back)), offset⟩ with
    | some found => rfl
    | none => exact ih _ _

/-- A pattern occurs in a text with a part that it can read. -/
theorem CanRead.occursIn {p : Pattern} (h : p.CanRead part) (front back : List Char) :
    p.occursIn (front ++ part ++ back) = true := by
  rw [List.append_assoc]
  exact h.isSome_searchFrom? none 0 front back

/-- A text in which a pattern occurs has a part that the pattern accepts. -/
theorem exists_accepts_of_occursIn {p : Pattern} {text : List Char} (h : p.occursIn text = true) :
    ∃ front part back, text = front ++ part ++ back ∧ p.Accepts part := by
  obtain ⟨found, hfound⟩ := Option.isSome_iff_exists.mp h
  obtain ⟨front, part, back, htext, hpart, -, -⟩ := (finds_of_search? hfound).exists_whole
  exact ⟨front, part, back, htext, hpart⟩

end PluginRecovery.Pattern
