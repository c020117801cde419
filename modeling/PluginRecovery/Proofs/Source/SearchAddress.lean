import Mathlib
import PluginRecovery.Proofs.Decimal.Integer
import PluginRecovery.Proofs.Text.Percent
import PluginRecovery.Proofs.Text.Replacement
import PluginRecovery.Source.SearchUrl

/-!
The address of a search as its template with all slots filled at once. A template is a row of pieces
(`Piece`): texts without dollar signs, and slots. Every slot is written with a dollar sign at its
beginning and nowhere else, and none is the beginning of another (`Slot.eq_of_isPrefix`), so a pass
that fills one slot changes the pieces of that slot and no others (`replaceAll_flatMap_source`). If
what is put in has no dollar sign either, it is a text for the passes that follow. Hence the passes
together fill each slot once, whatever stands beside it (`fillPlaces_flatMap_source`), and neither
the query, which is encoded, nor the site can make a slot or spoil one (`searchUrl_pieces`).
-/

set_option autoImplicit false
set_option relaxedAutoImplicit false

namespace PluginRecovery.Template

open PluginRecovery.Text

/-! ### Slots -/

/-- What a template leaves open. -/
inductive Slot where
  | site
  | baseUrl
  | query
  | page
  | bareQuery
  | barePage
  deriving DecidableEq

namespace Slot

/-- How a slot is written in a template. -/
def written : Slot → List Char
  | site => (bracedPlace "this.site").toList
  | baseUrl => (bracedPlace "this.baseUrl").toList
  | query => (bracedPlace "query").toList
  | page => (bracedPlace "page").toList
  | bareQuery => "$query".toList
  | barePage => "$page".toList

/-- What a slot is filled with. -/
def filling (site query page : List Char) : Slot → List Char
  | .site | .baseUrl => site
  | .query | .bareQuery => query
  | .page | .barePage => page

/-- The slots in the order in which they are filled. -/
def all : List Slot :=
  [site, baseUrl, query, page, bareQuery, barePage]

theorem mem_all (slot : Slot) : slot ∈ all := by
  cases slot <;> decide

/-- A slot has one dollar sign, in front. -/
theorem exists_written_eq (slot : Slot) :
    ∃ tail, slot.written = '$' :: tail ∧ '$' ∉ tail := by
  cases slot <;> exact ⟨_, rfl, by decide⟩

/-- No slot is the beginning of another. -/
theorem eq_of_isPrefix {slot other : Slot} (h : slot.written <+: other.written) : slot = other := by
  have hslots : ∀ slot ∈ all, ∀ other ∈ all, slot.written <+: other.written → slot = other := by
    decide
  exact hslots slot slot.mem_all other other.mem_all h

theorem not_prefix_append {slot other : Slot} (h : other ≠ slot) (rest : List Char) :
    ¬ slot.written <+: other.written ++ rest := by
  intro hprefix
  have hother : other.written <+: other.written ++ rest := List.prefix_append other.written rest
  rcases List.prefix_or_prefix_of_prefix hprefix hother with h' | h'
  · exact h (eq_of_isPrefix h').symm
  · exact h (eq_of_isPrefix h')

end Slot

theorem templatePlaces_eq (site query page : List Char) : templatePlaces site query page =
    Slot.all.map fun slot ↦ (slot.written, slot.filling site query page) :=
  rfl

/-! ### Templates -/

inductive Piece where
  | literal (text : List Char)
  | hole (slot : Slot)

namespace Piece

/-- How the piece is written in a template. -/
def source : Piece → List Char
  | literal text => text
  | hole slot => slot.written

@[simp] theorem source_literal (text : List Char) : (literal text).source = text :=
  rfl

@[simp] theorem source_hole (slot : Slot) : (hole slot).source = slot.written :=
  rfl

/-- What the piece is in an address: a text is itself, a slot what it is filled with. -/
def filled (filling : Slot → List Char) : Piece → List Char
  | literal text => text
  | hole slot => filling slot

/-- A text has no dollar sign in it. -/
def Plain : Piece → Prop
  | literal text => '$' ∉ text
  | hole _ => True

/-- The piece after a pass that fills one slot. -/
def pass (slot : Slot) (new : List Char) : Piece → Piece
  | literal text => literal text
  | hole other => if other = slot then literal new else hole other

/-- What the piece is when some of the slots are filled. -/
def filledAt (slots : List Slot) (filling : Slot → List Char) : Piece → List Char
  | literal text => text
  | hole slot => if slot ∈ slots then filling slot else slot.written

/-- A pass leaves a plain piece plain if what it fills in has no dollar sign. -/
theorem Plain.pass {piece : Piece} (h : piece.Plain) (slot : Slot) {new : List Char}
    (hnew : '$' ∉ new) : (piece.pass slot new).Plain := by
  cases piece with
  | literal text => exact h
  | hole other =>
    rw [Piece.pass]
    split_ifs
    · exact hnew
    · exact h

/-- A pass fills one slot, and the slots that come later fill what is left. -/
theorem filledAt_pass (slot : Slot) (slots : List Slot) (filling : Slot → List Char)
    (piece : Piece) : (piece.pass slot (filling slot)).filledAt slots filling =
      piece.filledAt (slot :: slots) filling := by
  cases piece with
  | literal text => rfl
  | hole other =>
    by_cases hslot : other = slot
    · subst hslot
      simp [pass, filledAt]
    · simp [pass, filledAt, hslot]

/-- The passes together fill every hole. -/
theorem filledAt_all (filling : Slot → List Char) (piece : Piece) :
    piece.filledAt Slot.all filling = piece.filled filling := by
  cases piece with
  | literal text => rfl
  | hole slot => rw [filledAt, if_pos slot.mem_all, filled]

end Piece

variable {pieces : List Piece}

/-- One pass: the pieces of the slot become texts, and all others stay. -/
theorem replaceAll_flatMap_source (slot : Slot) (new : List Char)
    (hpieces : ∀ piece ∈ pieces, piece.Plain) :
    replaceAll slot.written new (pieces.flatMap Piece.source) =
      (pieces.map (Piece.pass slot new)).flatMap Piece.source := by
  obtain ⟨tail, hwritten, -⟩ := slot.exists_written_eq
  induction pieces with
  | nil => rfl
  | cons piece pieces ih =>
    obtain ⟨hpiece, hrest⟩ := List.forall_mem_cons.mp hpieces
    rw [List.map_cons, List.flatMap_cons, List.flatMap_cons, ← ih hrest]
    cases piece with
    | literal text =>
      rw [hwritten]
      exact replaceAll_append_of_notMem hpiece _
    | hole other =>
      by_cases hslot : other = slot
      · subst hslot
        rw [Piece.pass, if_pos rfl, Piece.source_hole, Piece.source_literal, hwritten]
        exact replaceAll_append_self _
      · have hnot := Slot.not_prefix_append hslot (pieces.flatMap Piece.source)
        obtain ⟨text, hother, htext⟩ := other.exists_written_eq
        rw [Piece.pass, if_neg hslot, Piece.source_hole]
        rw [hwritten, hother] at hnot ⊢
        exact replaceAll_append_of_not_isPrefix htext hnot

/-- The passes one after the other fill the slots that they are for. -/
theorem fillPlaces_flatMap_source {filling : Slot → List Char}
    (hfilling : ∀ slot, '$' ∉ filling slot) (slots : List Slot)
    (hpieces : ∀ piece ∈ pieces, piece.Plain) :
    fillPlaces (slots.map fun slot ↦ (slot.written, filling slot))
      (pieces.flatMap Piece.source) = pieces.flatMap (Piece.filledAt slots filling) := by
  induction slots generalizing pieces with
  | nil =>
    refine List.flatMap_congr fun piece _ ↦ ?_
    cases piece with
    | literal text => rfl
    | hole slot => rw [Piece.filledAt, if_neg List.not_mem_nil, Piece.source_hole]
  | cons slot slots ih =>
    have hpassed : ∀ piece ∈ pieces.map (Piece.pass slot (filling slot)), piece.Plain := by
      intro piece hpiece
      obtain ⟨old, hold, rfl⟩ := List.mem_map.mp hpiece
      exact (hpieces old hold).pass slot (hfilling slot)
    have hrest := ih hpassed
    rw [← replaceAll_flatMap_source slot (filling slot) hpieces, List.flatMap_map] at hrest
    simp only [Piece.filledAt_pass] at hrest
    exact hrest

/-! ### Addresses -/

theorem dollar_not_mem_percentEncode (text : List Char) :
    '$' ∉ percentEncode isUnreserved text := by
  intro h
  rcases mem_percentEncode h with ⟨-, hkept⟩ | hescape
  · exact absurd hkept (by decide)
  · exact absurd hescape (by decide)

theorem dollar_not_mem_toString (n : ℕ) : '$' ∉ (toString n).toList := by
  intro h
  rw [show (toString n).toList = Nat.toDigits 10 n from Nat.toList_repr] at h
  exact absurd (Decimal.isDigit_of_mem_toDigits h) (by decide)

/-- The address of a search is the row of the template's pieces, its texts as they are and each slot
filled with the site, the encoded query or the number of the page. -/
theorem searchUrl_pieces (pieces : List Piece) (site query : String) (page : ℕ)
    (hpieces : ∀ piece ∈ pieces, piece.Plain) (hsite : '$' ∉ site.toList) :
    searchUrl (String.ofList (pieces.flatMap Piece.source)) site query page =
      String.ofList (pieces.flatMap (Piece.filled (Slot.filling site.toList
        (percentEncode isUnreserved query.toList) (toString page).toList))) := by
  have hfilling : ∀ slot : Slot, '$' ∉ slot.filling site.toList
      (percentEncode isUnreserved query.toList) (toString page).toList := by
    intro slot
    cases slot with
    | site | baseUrl => exact hsite
    | query | bareQuery => exact dollar_not_mem_percentEncode query.toList
    | page | barePage => exact dollar_not_mem_toString page
  rw [searchUrl, String.toList_ofList, templatePlaces_eq,
    fillPlaces_flatMap_source hfilling Slot.all hpieces]
  exact congrArg String.ofList (List.flatMap_congr fun piece _ ↦ piece.filledAt_all _)

/-- Slots side by side, and a query that spells a slot. -/
theorem searchUrl_pieces_of_slots :
    let pieces : List Piece := [.hole .site, .literal "/s/".toList, .hole .bareQuery,
      .hole .barePage, .literal "s?q=".toList, .hole .query, .literal "\x7d&p=".toList, .hole .page]
    ((∀ piece ∈ pieces, piece.Plain) ∧ '$' ∉ "https://a.example".toList) ∧
      searchUrl (String.ofList (pieces.flatMap Piece.source)) "https://a.example" "$page é" 2 =
        "https://a.example/s/%24page%20%C3%A92s?q=%24page%20%C3%A9\x7d&p=2" := by
  intro pieces
  have hpieces : ∀ piece ∈ pieces, piece.Plain := by
    simp [pieces, Piece.Plain]
  have hsite : '$' ∉ "https://a.example".toList := by decide
  refine ⟨⟨hpieces, hsite⟩, ?_⟩
  rw [searchUrl_pieces pieces _ _ _ hpieces hsite]
  decide +kernel

end PluginRecovery.Template
