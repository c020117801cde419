import Mathlib
import PluginRecovery.Proofs.Script.TopCommas
import PluginRecovery.Proofs.Script.ValueReading

/-!
When the reading of a value ends. Reading goes on to the items of an array and to the values of an
object (`Calls`). Each is shorter than the text it comes from, but for one shape: an array's text
that has no closing bracket at its end and no comma at the top is its own only item (`Endless`).
`readWithin` reads as the calls go, with a bound on how deep they may be nested and no check of
lengths; `reading_ends_iff` says that it comes to a value at some depth exactly for the texts from
which no endless text is reached, and that `readValue?` gives the values it comes to.
-/

set_option autoImplicit false
set_option relaxedAutoImplicit false

namespace PluginRecovery.Script

open PluginRecovery.Text Relation

/-! ### Calls -/

/-- The texts that the reading of a text goes on to. -/
inductive Calls (text : List Char) : List Char → Prop
  | item {items : List (List Char)} {item : List Char} (h : shape (trim text) = .array items)
      (hitem : item ∈ items) : Calls text item
  | entry {entry : String × List Char} (h : shape (trim text) = .object)
      (hentry : entry ∈ entryTexts (trim text)) : Calls text entry.2

/-- A text that begins as an array, does not end as one and has no comma at the top. -/
structure Endless (text : List Char) : Prop where
  opens : text.head? = some '['
  unclosed : text.getLast? ≠ some ']'
  noTopComma : NoTopComma text

/-- The value of a text, if it is come to with calls nested less deep than the bound. -/
def readWithin : Nat → List Char → Option Value
  | 0, _ => none
  | depth + 1, text =>
    match shape (trim text) with
    | .done value => some value
    | .array items => (items.mapM (readWithin depth)).map .array
    | .object =>
      ((entryTexts (trim text)).mapM fun (entry : String × List Char) =>
        (readWithin depth entry.2).map fun value => (entry.1, value)).map fun entries =>
          .object (Dictionary.ofEntries entries)

theorem of_shape_eq_array {text : List Char} {items : List (List Char)}
    (h : shape text = .array items) :
    text.head? = some '[' ∧ items = splitAtCommas (stripEnds '[' ']' text) := by
  unfold shape at h
  split at h
  · exact absurd h (by simp)
  · exact absurd h (by simp)
  · exact absurd h (by simp)
  · split at h
    · exact absurd h (by simp)
    · split at h
      · exact absurd h (by simp)
      · split at h
        · exact ⟨rfl, (Shape.array.inj h).symm⟩
        · exact absurd h (by simp)
        · split_ifs at h

/-! ### Lengths -/

/-- The ends of a text are dropped together, or they are not both there. -/
theorem stripEnds_cases (first last : Char) (text : List Char) :
    (stripEnds first last text).length + 2 = text.length ∨
      stripEnds first last text = text ∧
        ¬ (2 ≤ text.length ∧ text.head? = some first ∧ text.getLast? = some last) := by
  by_cases hends : 2 ≤ text.length ∧ text.head? = some first ∧ text.getLast? = some last
  · obtain ⟨body, rfl⟩ := exists_enclosed hends
    rw [stripEnds_enclosed]
    exact Or.inl (by simp)
  · exact Or.inr ⟨stripEnds_eq_self hends, hends⟩

theorem length_le_of_mem_splitAtCommas {text piece : List Char} (h : piece ∈ splitAtCommas text) :
    piece.length ≤ text.length := by
  rw [splitAtCommas_eq_parts, List.mem_map] at h
  obtain ⟨part, hpart, rfl⟩ := h
  exact (length_trim_le part).trans (length_le_of_mem_parts (List.mem_filter.mp hpart).1)

/-- A value is shorter than its entry, by the colon at least. -/
theorem length_lt_of_splitAtColon? {piece key value : List Char}
    (h : splitAtColon? piece = some (key, value)) : value.length < piece.length := by
  unfold splitAtColon? at h
  split at h
  · exact absurd h (by simp)
  · next colon rest hdrop =>
    obtain ⟨-, rfl⟩ := Prod.mk.inj (Option.some.inj h)
    have hle := List.length_dropWhile_le (· ≠ ':') piece
    rw [hdrop, List.length_cons] at hle
    exact hle

/-- The values in an object literal are shorter than its text, whatever its ends are. -/
theorem length_lt_of_mem_entryTexts {text : List Char} {entry : String × List Char}
    (h : entry ∈ entryTexts text) : entry.2.length < text.length := by
  rw [entryTexts, List.mem_filterMap] at h
  obtain ⟨piece, hpiece, hentry⟩ := h
  cases hcolon : splitAtColon? piece with
  | none =>
    rw [hcolon] at hentry
    exact absurd hentry (by simp)
  | some pair =>
    rw [hcolon] at hentry
    simp only [Option.ite_none_left_eq_some, Option.some.injEq] at hentry
    obtain ⟨-, rfl⟩ := hentry
    have hvalue := length_lt_of_splitAtColon? hcolon
    have hle := length_le_of_mem_splitAtCommas hpiece
    have htrim := length_trim_le text
    change pair.2.length < text.length
    rcases stripEnds_cases '{' '}' (trim text) with hstrip | ⟨hstrip, -⟩
    · omega
    · rw [hstrip] at hle
      omega

/-- The items of an array's text that is not endless are shorter than the text: its ends are
dropped, or a comma at the top cuts it. -/
theorem length_lt_of_mem_items {text item : List Char} (hopens : text.head? = some '[')
    (hends : ¬ Endless text) (h : item ∈ splitAtCommas (stripEnds '[' ']' text)) :
    item.length < text.length := by
  rcases stripEnds_cases '[' ']' text with hstrip | ⟨hstrip, hnot⟩
  · have hle := length_le_of_mem_splitAtCommas h
    omega
  · have hunclosed : text.getLast? ≠ some ']' := by
      intro hlast
      refine hnot ⟨?_, hopens, hlast⟩
      obtain ⟨rest, rfl⟩ := List.head?_eq_some_iff.mp hopens
      cases rest with
      | nil => exact absurd hlast (by simp)
      | cons next rest => exact Nat.le_add_left 2 rest.length
    have hcomma : ¬ NoTopComma text := fun hcomma ↦ hends ⟨hopens, hunclosed, hcomma⟩
    unfold NoTopComma at hcomma
    push Not at hcomma
    obtain ⟨front, back, rfl, htop⟩ := hcomma
    rw [hstrip, splitAtCommas_append_comma htop, List.mem_append] at h
    rw [List.length_append, List.length_cons]
    rcases h with hfront | hback
    · have hle := length_le_of_mem_splitAtCommas hfront
      omega
    · have hle := length_le_of_mem_splitAtCommas hback
      omega

/-- The reading goes on to shorter texts, unless the text is endless. -/
theorem Calls.length_lt {text called : List Char} (h : Calls text called)
    (hends : ¬ Endless (trim text)) : called.length < (trim text).length := by
  cases h with
  | item hshape hitem =>
    obtain ⟨hopens, rfl⟩ := of_shape_eq_array hshape
    exact length_lt_of_mem_items hopens hends hitem
  | entry hshape hentry => exact length_lt_of_mem_entryTexts hentry

/-- An endless text is its own only item. -/
theorem Endless.shape_eq {text : List Char} (h : Endless text) (htrimmed : Trimmed text) :
    shape text = .array [text] := by
  obtain ⟨hopens, hunclosed, hcomma⟩ := h
  have hstrip : stripEnds '[' ']' text = text := stripEnds_eq_self fun hboth ↦ hunclosed hboth.2.2
  obtain ⟨rest, rfl⟩ := List.head?_eq_some_iff.mp hopens
  rw [shape_bracket, hstrip, splitAtCommas_eq_parts, (parts_eq_singleton_iff _).mpr hcomma]
  change Shape.array [trim ('[' :: rest)] = _
  rw [htrimmed.trim_eq]

/-- The reading of an endless text goes on to that text and to no other. -/
theorem Endless.calls_iff {text : List Char} (h : Endless (trim text)) (called : List Char) :
    Calls text called ↔ called = trim text := by
  have hshape := h.shape_eq (trimmed_trim text)
  constructor
  · intro hcall
    cases hcall with
    | item hitems hitem =>
      rw [hshape] at hitems
      obtain rfl := Shape.array.inj hitems
      exact List.mem_singleton.mp hitem
    | entry hobject _ =>
      rw [hshape] at hobject
      exact absurd hobject (by simp)
  · rintro rfl
    exact .item hshape List.mem_cons_self

/-! ### Ends of readings -/

theorem mapM_eq_some_of_imp {α β : Type} {f g : α → Option β} {items : List α} {results : List β}
    (h : items.mapM f = some results)
    (himp : ∀ item ∈ items, ∀ result, f item = some result → g item = some result) :
    items.mapM g = some results := by
  induction items generalizing results with
  | nil => exact h
  | cons item items ih =>
    rw [List.mapM_cons] at h ⊢
    obtain ⟨first, hfirst, h⟩ := Option.bind_eq_some_iff.mp h
    obtain ⟨rest, hrest, h⟩ := Option.bind_eq_some_iff.mp h
    have hrest' := ih hrest fun other hother ↦ himp other (List.mem_cons_of_mem item hother)
    rw [himp item List.mem_cons_self first hfirst, hrest']
    exact h

theorem isSome_mapM_iff {α β : Type} (f : α → Option β) (items : List α) :
    (items.mapM f).isSome = true ↔ ∀ item ∈ items, (f item).isSome = true := by
  induction items with
  | nil => simp
  | cons item items ih =>
    rw [List.mapM_cons, List.forall_mem_cons, ← ih]
    cases f item <;> cases items.mapM f <;> simp

/-- The depth at which an endless text would be read is never come to. -/
theorem readWithin_endless {text : List Char} (h : Endless (trim text)) (depth : Nat) :
    readWithin depth text = none := by
  induction depth generalizing text with
  | zero => rfl
  | succ depth ih =>
    have hself : Endless (trim (trim text)) := by
      rwa [(trimmed_trim text).trim_eq]
    rw [readWithin, h.shape_eq (trimmed_trim text)]
    simp only [List.mapM_cons, ih hself]
    rfl

/-- What a reading that ends goes on to is read, too. -/
theorem exists_readWithin_of_calls {text called : List Char} (h : Calls text called)
    (hread : ∃ depth value, readWithin depth text = some value) :
    ∃ depth value, readWithin depth called = some value := by
  obtain ⟨depth, value, hread⟩ := hread
  cases depth with
  | zero => exact absurd hread (by simp [readWithin])
  | succ depth =>
    refine ⟨depth, Option.isSome_iff_exists.mp ?_⟩
    cases h with
    | item hshape hitem =>
      rw [readWithin, hshape] at hread
      obtain ⟨values, hvalues, -⟩ := Option.map_eq_some_iff.mp hread
      exact (isSome_mapM_iff _ _).mp (Option.isSome_of_eq_some hvalues) _ hitem
    | entry hshape hentry =>
      rw [readWithin, hshape] at hread
      obtain ⟨entries, hentries, -⟩ := Option.map_eq_some_iff.mp hread
      have hsome := (isSome_mapM_iff _ _).mp (Option.isSome_of_eq_some hentries) _ hentry
      rwa [Option.isSome_map] at hsome

/-- From a text whose reading ends no endless text is reached. -/
theorem not_endless_of_reaches {text reached : List Char}
    (hread : ∃ depth value, readWithin depth text = some value)
    (h : ReflTransGen Calls text reached) : ¬ Endless (trim reached) := by
  have hreached : ∃ depth value, readWithin depth reached = some value := by
    induction h with
    | refl => exact hread
    | tail _ hcall ih => exact exists_readWithin_of_calls hcall ih
  intro hends
  obtain ⟨depth, value, hvalue⟩ := hreached
  rw [readWithin_endless hends] at hvalue
  exact absurd hvalue (by simp)

/-- Where no endless text is reached, every call is on a shorter text, so that the length of the
text bounds how deep calls are nested. -/
theorem isSome_readWithin {text : List Char}
    (h : ∀ reached, ReflTransGen Calls text reached → ¬ Endless (trim reached)) {depth : Nat}
    (hdepth : text.length < depth) : (readWithin depth text).isSome = true := by
  induction depth generalizing text with
  | zero => exact absurd hdepth (Nat.not_lt_zero _)
  | succ depth ih =>
    have hcalled : ∀ called, Calls text called → (readWithin depth called).isSome = true := by
      intro called hcall
      have hlength := hcall.length_lt (h text .refl)
      have htrim := length_trim_le text
      exact ih (fun reached hreached ↦ h reached (.head hcall hreached)) (by omega)
    rw [readWithin]
    cases hshape : shape (trim text) with
    | done value => rfl
    | array items =>
      simp only [Option.isSome_map]
      exact (isSome_mapM_iff _ _).mpr fun item hitem ↦ hcalled item (.item hshape hitem)
    | object =>
      simp only [Option.isSome_map]
      refine (isSome_mapM_iff _ _).mpr fun entry hentry ↦ ?_
      rw [Option.isSome_map]
      exact hcalled entry.2 (.entry hshape hentry)

/-- The reader's check of lengths refuses nothing that is read at some depth. -/
theorem readValue?_of_readWithin {depth : Nat} {text : List Char} {value : Value}
    (h : readWithin depth text = some value) : readValue? text = some value := by
  induction depth generalizing text value with
  | zero => exact absurd h (by simp [readWithin])
  | succ depth ih =>
    have hends := not_endless_of_reaches ⟨depth + 1, value, h⟩ .refl
    have hlength : ∀ called, Calls text called → called.length < text.length :=
      fun called hcall ↦ (hcall.length_lt hends).trans_le (length_trim_le text)
    rw [readWithin] at h
    rw [readValue?]
    cases hshape : shape (trim text) with
    | done other =>
      rw [hshape] at h
      exact h
    | array items =>
      rw [hshape] at h
      obtain ⟨values, hvalues, rfl⟩ := Option.map_eq_some_iff.mp h
      refine Option.map_eq_some_iff.mpr ⟨values, mapM_eq_some_of_imp hvalues ?_, rfl⟩
      intro item hitem result hresult
      rw [if_pos (hlength item (.item hshape hitem)), ih hresult]
    | object =>
      rw [hshape] at h
      obtain ⟨entries, hentries, rfl⟩ := Option.map_eq_some_iff.mp h
      refine Option.map_eq_some_iff.mpr ⟨entries, mapM_eq_some_of_imp hentries ?_, rfl⟩
      intro entry hentry result hresult
      obtain ⟨inner, hinner, rfl⟩ := Option.map_eq_some_iff.mp hresult
      rw [if_pos (hlength entry.2 (.entry hshape hentry)), ih hinner]
      rfl

/-- A reading that ends is done within any depth above the length of its text. -/
theorem readWithin_of_readValue? {text : List Char} {value : Value}
    (h : readValue? text = some value) {depth : Nat} (hdepth : text.length < depth) :
    readWithin depth text = some value := by
  induction depth generalizing text value with
  | zero => exact absurd hdepth (Nat.not_lt_zero _)
  | succ depth ih =>
    rw [readValue?] at h
    rw [readWithin]
    cases hshape : shape (trim text) with
    | done other =>
      rw [hshape] at h
      exact h
    | array items =>
      rw [hshape] at h
      obtain ⟨values, hvalues, rfl⟩ := Option.map_eq_some_iff.mp h
      refine Option.map_eq_some_iff.mpr ⟨values, mapM_eq_some_of_imp hvalues ?_, rfl⟩
      intro item _ result hresult
      rw [Option.ite_none_right_eq_some] at hresult
      exact ih hresult.2 (by omega)
    | object =>
      rw [hshape] at h
      obtain ⟨entries, hentries, rfl⟩ := Option.map_eq_some_iff.mp h
      refine Option.map_eq_some_iff.mpr ⟨entries, mapM_eq_some_of_imp hentries ?_, rfl⟩
      intro entry _ result hresult
      rw [Option.ite_none_right_eq_some] at hresult
      obtain ⟨inner, hinner, rfl⟩ := Option.map_eq_some_iff.mp hresult.2
      rw [ih hinner (by omega)]
      rfl

/-- White space around a text changes nothing about its value. -/
theorem readValue?_trim (text : List Char) : readValue? (trim text) = readValue? text := by
  have htrim (depth : ℕ) : readWithin depth (trim text) = readWithin depth text := by
    cases depth with
    | zero => rfl
    | succ depth => rw [readWithin, readWithin, (trimmed_trim text).trim_eq]
  refine Option.ext fun value ↦ ⟨fun h ↦ ?_, fun h ↦ ?_⟩
  · have hread := readWithin_of_readValue? h (Nat.lt_succ_self _)
    rw [htrim] at hread
    exact readValue?_of_readWithin hread
  · have hread := readWithin_of_readValue? h (Nat.lt_succ_self _)
    rw [← htrim] at hread
    exact readValue?_of_readWithin hread

/-- Every call of the readers is on a shorter text, but for a trimmed text that is endless: it calls
for itself and nothing else. So reading comes to a value exactly where no endless text is reached,
and to the value that `readValue?` gives. -/
theorem reading_ends_iff :
    (∀ text called, Calls text called → ¬ Endless (trim text) →
      called.length < (trim text).length) ∧
    (∀ text, Endless (trim text) → ∀ called, Calls text called ↔ called = trim text) ∧
    (∀ text, ∀ entry ∈ entryTexts text, entry.2.length < text.length) ∧
    (∀ text value, readValue? text = some value ↔ ∃ depth, readWithin depth text = some value) ∧
    ∀ text, (∃ depth value, readWithin depth text = some value) ↔
      ∀ reached, ReflTransGen Calls text reached → ¬ Endless (trim reached) := by
  refine ⟨fun text called h ↦ h.length_lt, fun text h ↦ h.calls_iff,
    fun text entry ↦ length_lt_of_mem_entryTexts, fun text value ↦ ⟨?_, ?_⟩,
    fun text ↦ ⟨?_, ?_⟩⟩
  · intro h
    exact ⟨text.length + 1, readWithin_of_readValue? h (Nat.lt_succ_self _)⟩
  · rintro ⟨depth, h⟩
    exact readValue?_of_readWithin h
  · intro hread reached hreached
    exact not_endless_of_reaches hread hreached
  · intro h
    exact ⟨text.length + 1, Option.isSome_iff_exists.mp (isSome_readWithin h (Nat.lt_succ_self _))⟩

/-- An array that is not closed and has no comma at the top, between blanks, is read for ever. With
a comma at the top its items are shorter, as is the value in an object that is not closed. -/
theorem reading_ends_unclosed :
    (∀ called, Calls " [1\t".toList called ↔ called = "[1".toList) ∧
      (¬ ∃ depth value, readWithin depth " [1\t".toList = some value) ∧
      "[1]".toList.length < "[1],2".toList.length ∧
      " 'b".toList.length < "\x7ba: 'b".toList.length ∧
      readValue? "[1],2".toList = some (.array [.array [.int 1], .int 2]) := by
  have hends : Endless (trim " [1\t".toList) := by
    refine ⟨by decide, by decide, fun front back h ↦ ?_⟩
    have hcomma : ',' ∈ trim " [1\t".toList := by
      rw [h]
      exact List.mem_append_right front List.mem_cons_self
    exact absurd hcomma (by decide)
  have hitems : shape (trim "[1],2".toList) = .array ["[1]".toList, "2".toList] := rfl
  have hcomma : ¬ Endless (trim "[1],2".toList) := fun h ↦
    h.noTopComma "[1]".toList ['2'] rfl (by decide)
  have hentries : entryTexts "\x7ba: 'b".toList = [("\x7ba", " 'b".toList)] := rfl
  obtain ⟨hshorter, hself, hentry, hvalue, hread⟩ := reading_ends_iff
  refine ⟨hself _ hends, fun hfound ↦ (hread _).mp hfound _ .refl hends,
    hshorter _ _ (.item hitems List.mem_cons_self) hcomma,
    hentry _ ("\x7ba", " 'b".toList) (hentries ▸ List.mem_cons_self), ?_⟩
  exact (hvalue _ _).mpr ⟨3, rfl⟩

end PluginRecovery.Script
