import Mathlib
import PluginRecovery.WebPage.Candidates

/-!
Which elements of a page are selected, and in which order. The elements that stand in a page are in
the order of its tree (`Document.standing`); besides them there are those below elements that were
cut off (`Document.cutOff`). A candidate means elements of both kinds, and they come in the order in
which they were made (`allMeant_matching`). That is the order of the tree as long as no element of a
cut is meant and none that is meant was moved before one that was made earlier
(`matching_eq_standing_iff`). What is selected on a page is all that the first candidate with any
means (`selects_select`).
-/

set_option autoImplicit false
set_option relaxedAutoImplicit false

namespace PluginRecovery

open PluginRecovery.Html

/-! ### Elements of a page -/

namespace Html

/-- The elements that stand in a page, in the order of its tree. -/
def Document.standing (document : Document) : List Place :=
  Node.placesOf [] true [] document.nodes

/-- The elements below those that were cut off from a page. -/
def Document.cutOff (document : Document) : List Place :=
  document.cut.flatMap cutPlaces

/-- The one element was not made later than the other. -/
def Place.MadeBefore (place other : Place) : Prop :=
  place.number ≤ other.number

namespace Place

instance : DecidableRel MadeBefore :=
  fun place other ↦ inferInstanceAs (Decidable (place.number ≤ other.number))

instance : Std.Total MadeBefore :=
  ⟨fun place other ↦ Nat.le_total place.number other.number⟩

instance : IsTrans Place MadeBefore :=
  ⟨fun _ _ _ ↦ Nat.le_trans⟩

end Place

theorem insertByNumber_eq_orderedInsert (place : Place) (places : List Place) :
    insertByNumber place places = places.orderedInsert Place.MadeBefore place := by
  induction places with
  | nil => rfl
  | cons other places ih => rw [insertByNumber, ih]; rfl

/-- All elements of a page are sorted by when they were made. -/
theorem Document.places_eq_insertionSort (document : Document) :
    document.places = (document.standing ++ document.cutOff).insertionSort Place.MadeBefore := by
  have hinsert : insertByNumber = List.orderedInsert Place.MadeBefore :=
    funext₂ insertByNumber_eq_orderedInsert
  rw [places, hinsert]
  rfl

end Html

/-! ### What a candidate means -/

/-- The candidate is a selector that means the element. -/
def Means (candidate : String) (place : Place) : Bool :=
  (Css.Selector.list? candidate).any fun selectors ↦ Css.anyHolds {} place selectors

namespace WebPage

/-- A candidate matches the elements that it means, in the order in which they were made. -/
theorem matching_eq_filter (page : WebPage) (candidate : String) :
    page.matching candidate = page.document.places.filter (Means candidate) := by
  rw [matching]
  unfold Means
  cases Css.Selector.list? candidate with
  | none => simp
  | some selectors => rfl

/-- A candidate matches each element that it means once, of those that stand in the page and of
those that were cut off. -/
theorem perm_matching (page : WebPage) (candidate : String) : (page.matching candidate).Perm
    ((page.document.standing ++ page.document.cutOff).filter (Means candidate)) := by
  rw [matching_eq_filter, Document.places_eq_insertionSort]
  exact (List.perm_insertionSort _ _).filter _

theorem pairwise_matching (page : WebPage) (candidate : String) :
    (page.matching candidate).Pairwise Place.MadeBefore := by
  rw [matching_eq_filter, Document.places_eq_insertionSort]
  exact (List.pairwise_insertionSort _ _).filter _

/-- The elements that a candidate means are in the order of the tree exactly if none of them was cut
off and none was made before one that stands before it. -/
theorem matching_eq_standing_iff (page : WebPage) (candidate : String) :
    page.matching candidate = page.document.standing.filter (Means candidate) ↔
      page.document.cutOff.filter (Means candidate) = [] ∧
        (page.document.standing.filter (Means candidate)).Pairwise Place.MadeBefore := by
  have hlength := (page.perm_matching candidate).length_eq
  rw [List.filter_append, List.length_append] at hlength
  constructor
  · intro h
    refine ⟨List.length_eq_zero_iff.mp ?_, h ▸ page.pairwise_matching candidate⟩
    rw [h] at hlength
    omega
  · rintro ⟨hcut, hmade⟩
    have hsublist : (page.document.standing.filter (Means candidate)).Sublist
        (page.matching candidate) := by
      rw [matching_eq_filter, Document.places_eq_insertionSort]
      have hsorted := List.sublist_insertionSort hmade
        (List.filter_sublist.trans (List.sublist_append_left _ page.document.cutOff))
      simpa using hsorted.filter (Means candidate)
    exact (hsublist.eq_of_length (by simpa [hcut] using hlength.symm)).symm

/-- The elements are all that the candidate means, of those that stand in the page and of those that
were cut off, in the order in which they were made. That is the order of the tree exactly if none of
them was cut off and none was made before one that stands before it. -/
structure AllMeant (page : WebPage) (candidate : String) (items : List Place) : Prop where
  perm : items.Perm ((page.document.standing ++ page.document.cutOff).filter (Means candidate))
  made : items.Pairwise Place.MadeBefore
  tree : items = page.document.standing.filter (Means candidate) ↔
    page.document.cutOff.filter (Means candidate) = [] ∧
      (page.document.standing.filter (Means candidate)).Pairwise Place.MadeBefore

theorem allMeant_matching (page : WebPage) (candidate : String) :
    page.AllMeant candidate (page.matching candidate) :=
  ⟨page.perm_matching candidate, page.pairwise_matching candidate,
    page.matching_eq_standing_iff candidate⟩

/-! ### What is selected -/

/-- What is selected is all that the first candidate with any means, or nothing. -/
theorem select_cases (page : WebPage) (selectors : String) :
    (∃ before candidate after, candidates selectors = before ++ candidate :: after ∧
      (∀ other ∈ before, page.matching other = []) ∧ page.matching candidate ≠ [] ∧
      page.select selectors = page.matching candidate) ∨
    (∀ candidate ∈ candidates selectors, page.matching candidate = []) ∧
      page.select selectors = [] := by
  rw [select]
  cases hyield : firstYield selectors fun candidate ↦
      (some (page.matching candidate)).filter (!·.isEmpty) with
  | none =>
    refine .inr ⟨fun candidate hcandidate ↦ ?_, rfl⟩
    simpa using List.findSome?_eq_none_iff.mp hyield candidate hcandidate
  | some items =>
    obtain ⟨before, candidate, after, hlist, hhit, hmiss⟩ := List.findSome?_eq_some_iff.mp hyield
    obtain ⟨hitems, hne⟩ := Option.filter_eq_some_iff.mp hhit
    obtain rfl := Option.some.inj hitems
    refine .inl ⟨before, candidate, after, hlist, fun other hother ↦ ?_, by simpa using hne, rfl⟩
    simpa using hmiss other hother

/-- The elements are all that the first candidate with any means; there is none when no candidate
means any. -/
inductive Selects (page : WebPage) (selectors : String) : List Place → Prop
  | first {before after : List String} {candidate : String} {items : List Place}
    (hlist : candidates selectors = before ++ candidate :: after)
    (hbefore : ∀ other ∈ before, page.AllMeant other [])
    (hitems : page.AllMeant candidate items) (hne : items ≠ []) : Selects page selectors items
  | none (h : ∀ candidate ∈ candidates selectors, page.AllMeant candidate []) :
    Selects page selectors []

theorem selects_select (page : WebPage) (selectors : String) :
    page.Selects selectors (page.select selectors) := by
  have hnone {other : String} (hother : page.matching other = []) : page.AllMeant other [] :=
    hother ▸ allMeant_matching page other
  rcases page.select_cases selectors with
    ⟨before, candidate, after, hlist, hbefore, hne, hselect⟩ | ⟨hmiss, hselect⟩
  · rw [hselect]
    exact .first hlist (fun other hother ↦ hnone (hbefore other hother))
      (allMeant_matching page candidate) hne
  · rw [hselect]
    exact .none fun candidate hcandidate ↦ hnone (hmiss candidate hcandidate)

end WebPage

end PluginRecovery
