import Mathlib
import PluginRecovery.Proofs.Text.Trimming
import PluginRecovery.Proofs.WebPage.FirstReading
import PluginRecovery.Proofs.WebPage.Selection

/-!
Candidates that find nothing. A list of candidates is texts with commas between them, and the
candidates of the list are those of the texts (`candidates_intercalate`). So a text that is put
anywhere into a list changes nothing as long as none of its candidates yields a value
(`firstYield_insert`). That is so for every way of looking if the text is `Fruitless`: blank, or no
selector, or a selector that means no element of those that are looked at. Where only the first
element of a candidate counts, that element may as well have nothing to show (`insert_fruitless`).
-/

set_option autoImplicit false
set_option relaxedAutoImplicit false

namespace PluginRecovery

open PluginRecovery.Html PluginRecovery.Text

/-! ### Lists of candidates -/

/-- A comma parts the candidates before it from those behind it. -/
theorem candidates_append_comma (front back : String) :
    candidates (front ++ "," ++ back) = candidates front ++ candidates back := by
  have hlist : (front ++ "," ++ back).toList = front.toList ++ ',' :: back.toList := by simp
  rw [candidates, hlist, List.splitOn_append_cons_self, List.map_append, List.filter_append,
    List.map_append, candidates, candidates]

/-- The candidates of texts with commas between them are those of each. -/
theorem candidates_intercalate (texts : List String) :
    candidates (",".intercalate texts) = texts.flatMap candidates := by
  induction texts with
  | nil => decide
  | cons text texts ih =>
    cases texts with
    | nil => rw [String.intercalate_singleton, List.flatMap_singleton]
    | cons next texts =>
      rw [String.intercalate_cons_cons, candidates_append_comma, ih]
      rfl

/-- The candidate that a text without commas is, if it is not blank. -/
def candidateOf (text : String) : String :=
  String.ofList (trim text.toList)

theorem eq_candidateOf_of_mem {text candidate : String} (hcomma : ',' ∉ text.toList)
    (h : candidate ∈ candidates text) :
    candidate = candidateOf text ∧ blank text.toList = false := by
  rw [candidates, List.splitOn_eq_singleton hcomma, List.map_singleton] at h
  obtain ⟨chars, hchars, rfl⟩ := List.mem_map.mp h
  obtain ⟨hmem, hne⟩ := List.mem_filter.mp hchars
  obtain rfl := List.mem_singleton.mp hmem
  refine ⟨rfl, Bool.eq_false_iff.mpr fun hblank ↦ ?_⟩
  rw [trim_of_blank hblank] at hne
  exact absurd hne (by simp)

/-- A text that yields nothing may stand anywhere in a list. -/
theorem firstYield_insert {α : Type} {yield? : String → Option α} {text : String}
    (h : ∀ candidate ∈ candidates text, yield? candidate = none) (before after : List String) :
    firstYield (",".intercalate (before ++ text :: after)) yield? =
      firstYield (",".intercalate (before ++ after)) yield? := by
  rw [firstYield, firstYield, candidates_intercalate, candidates_intercalate, List.flatMap_append,
    List.flatMap_append, List.flatMap_cons, List.findSome?_append, List.findSome?_append,
    List.findSome?_append, List.findSome?_eq_none_iff.mpr h, Option.none_or]

/-! ### Texts that mean nothing -/

/-- The text means none of the elements: it is blank, or it is no selector, or it is one that holds
of none of them. -/
inductive Fruitless (search : Css.Search) (scope : List Place) (text : String) : Prop
  | blank (h : Text.blank text.toList = true)
  | invalid (h : Css.Selector.list? (candidateOf text) = none)
  | unmatched {selectors : List Css.Selector}
    (hselectors : Css.Selector.list? (candidateOf text) = some selectors)
    (h : ∀ place ∈ scope, Css.anyHolds search place selectors = false)

/-- A fruitless text has no candidate that is a selector of some of the elements. -/
theorem Fruitless.filter_eq_nil {search : Css.Search} {scope : List Place} {text : String}
    (h : Fruitless search scope text) (hcomma : ',' ∉ text.toList) :
    ∀ candidate ∈ candidates text, ((Css.Selector.list? candidate).map fun selectors ↦
      scope.filter fun place ↦ Css.anyHolds search place selectors).getD [] = [] := by
  intro candidate hcandidate
  obtain ⟨rfl, hnot⟩ := eq_candidateOf_of_mem hcomma hcandidate
  cases h with
  | blank hblank => exact absurd hblank (Bool.eq_false_iff.mp hnot)
  | invalid hinvalid =>
    rw [hinvalid]
    rfl
  | unmatched hselectors hscope =>
    rw [hselectors, Option.map_some, Option.getD_some, List.filter_eq_nil_iff]
    exact fun place hplace ↦ Bool.eq_false_iff.mp (hscope place hplace)

/-! ### Lists with a text more -/

namespace WebPage

variable (page : WebPage) {text : String} (before after : List String)

/-- Candidates that mean nothing on the page change nothing that is selected. -/
theorem select_insert (h : ∀ candidate ∈ candidates text, page.matching candidate = []) :
    page.select (",".intercalate (before ++ text :: after)) =
      page.select (",".intercalate (before ++ after)) := by
  have hmiss : ∀ candidate ∈ candidates text,
      (some (page.matching candidate)).filter (!·.isEmpty) = none := by
    intro candidate hcandidate
    rw [h candidate hcandidate]
    rfl
  rw [select, select, firstYield_insert hmiss]

/-- Candidates that mean nothing on the page change no texts that are found. -/
theorem allTexts?_insert (h : ∀ candidate ∈ candidates text, page.matching candidate = []) :
    page.allTexts? (",".intercalate (before ++ text :: after)) =
      page.allTexts? (",".intercalate (before ++ after)) := by
  refine firstYield_insert (fun candidate hcandidate ↦ ?_) before after
  rw [h candidate hcandidate]

/-- Candidates whose first element has no text do not change the first text. -/
theorem firstText?_insert (h : ∀ candidate ∈ candidates text,
    ∀ place ∈ (page.matching candidate).head?, elementText place = "") :
    page.firstText? (",".intercalate (before ++ text :: after)) =
      page.firstText? (",".intercalate (before ++ after)) := by
  refine firstYield_insert (fun candidate hcandidate ↦ ?_) before after
  cases hfirst : (page.matching candidate).head? with
  | none => rfl
  | some place =>
    rw [Option.map_some, h candidate hcandidate place hfirst]
    rfl

/-- Candidates whose first element has no image do not change the first image. -/
theorem firstImage?_insert (h : ∀ candidate ∈ candidates text,
    ∀ place ∈ (page.matching candidate).head?, page.imageOf? place = none) :
    page.firstImage? (",".intercalate (before ++ text :: after)) =
      page.firstImage? (",".intercalate (before ++ after)) :=
  firstYield_insert (fun candidate hcandidate ↦
    Option.bind_eq_none_iff.mpr (h candidate hcandidate)) before after

/-- Both lists find the same on the page. -/
structure FindsSame (list other : String) : Prop where
  select : page.select list = page.select other
  firstText? : page.firstText? list = page.firstText? other
  allTexts? : page.allTexts? list = page.allTexts? other
  firstImage? : page.firstImage? list = page.firstImage? other

theorem findsSame_insert (h : ∀ candidate ∈ candidates text, page.matching candidate = []) :
    page.FindsSame (",".intercalate (before ++ text :: after))
      (",".intercalate (before ++ after)) where
  select := page.select_insert before after h
  firstText? := page.firstText?_insert before after fun candidate hcandidate place hplace ↦ by
    simp [h candidate hcandidate] at hplace
  allTexts? := page.allTexts?_insert before after h
  firstImage? := page.firstImage?_insert before after fun candidate hcandidate place hplace ↦ by
    simp [h candidate hcandidate] at hplace

end WebPage

theorem findWithin_insert {α : Type} {element : Place} {text : String} {extract : Place → Option α}
    (h : ∀ candidate ∈ candidates text,
      ∀ place ∈ (matchingBelow element candidate).head?, extract place = none)
    (before after : List String) :
    findWithin element (",".intercalate (before ++ text :: after)) extract =
      findWithin element (",".intercalate (before ++ after)) extract :=
  firstYield_insert (fun candidate hcandidate ↦
    Option.bind_eq_none_iff.mpr (h candidate hcandidate)) before after

/-- A text that means nothing may stand anywhere in a list of candidates, for every way of looking
on a page or in an element, and for those that look only at the first element of a candidate also a
text whose first element has nothing to show. What is selected on a page is always all that a single
candidate means, or nothing if no candidate means any element. -/
theorem insert_fruitless (page : WebPage) (element : Place) {text : String}
    (hcomma : ',' ∉ text.toList) (before after : List String) :
    let list := ",".intercalate (before ++ after)
    let longer := ",".intercalate (before ++ text :: after)
    let first := (page.matching (candidateOf text)).head?
    let firstInside := (matchingBelow element (candidateOf text)).head?
    (Fruitless {} page.document.places text → page.FindsSame longer list) ∧
      (Fruitless { scope := some element.number } element.below text →
        ∀ {α : Type} (extract : Place → Option α),
          findWithin element longer extract = findWithin element list extract) ∧
      ((∀ place ∈ first, WebPage.elementText place = "") →
        page.firstText? longer = page.firstText? list) ∧
      ((∀ place ∈ first, page.imageOf? place = none) →
        page.firstImage? longer = page.firstImage? list) ∧
      (∀ {α : Type} (extract : Place → Option α), (∀ place ∈ firstInside, extract place = none) →
        findWithin element longer extract = findWithin element list extract) ∧
      ∀ selectors : String,
        (∃ candidate ∈ candidates selectors,
          page.select selectors = page.document.places.filter (Means candidate)) ∨
        (∀ candidate ∈ candidates selectors, page.document.places.filter (Means candidate) = []) ∧
          page.select selectors = [] := by
  intro list longer first firstInside
  have hcandidate (candidate : String) (h : candidate ∈ candidates text) :
      candidate = candidateOf text := (eq_candidateOf_of_mem hcomma h).1
  refine ⟨fun h ↦ ?_, fun h α extract ↦ ?_, fun h ↦ ?_, fun h ↦ ?_, fun extract h ↦ ?_,
    fun selectors ↦ ?_⟩
  · exact page.findsSame_insert before after (h.filter_eq_nil hcomma)
  · refine findWithin_insert (fun candidate hmem place hplace ↦ ?_) before after
    have hnil : matchingBelow element candidate = [] := h.filter_eq_nil hcomma candidate hmem
    simp [hnil] at hplace
  · refine page.firstText?_insert before after fun candidate hmem ↦ ?_
    rwa [hcandidate candidate hmem]
  · refine page.firstImage?_insert before after fun candidate hmem ↦ ?_
    rwa [hcandidate candidate hmem]
  · refine findWithin_insert (fun candidate hmem ↦ ?_) before after
    rwa [hcandidate candidate hmem]
  · simp only [← page.matching_eq_filter]
    rcases page.select_cases selectors with ⟨front, candidate, back, hlist, -, -, hselect⟩ | hnone
    · exact .inl ⟨candidate, by simp [hlist], hselect⟩
    · exact .inr hnone

/-- A text that is no selector, put between two candidates; one that means no element inside; and
one whose first element, blank and without an image, is before another that has a text. -/
theorem insert_fruitless_unclosed_and_blank :
    let page := WebPage.ofText
      "<div id=d><b class=a> </b><b class=a>One</b><i>Two</i><img src=1.png></div>"
      "https://a.example/"
    ∃ element ∈ page.matching "#d",
      (page.FindsSame (",".intercalate ([".gone"] ++ " div[" :: ["i"]))
          (",".intercalate ([".gone"] ++ ["i"])) ∧
        (page.select ".gone, div[,i").map WebPage.elementText = ["Two"]) ∧
      findWithin element (",".intercalate ([] ++ "#d" :: ["i"])) shownText? =
        findWithin element (",".intercalate ([] ++ ["i"])) shownText? ∧
      page.firstText? (",".intercalate ([] ++ ".a" :: ["i"])) = some "Two" ∧
      page.firstImage? (",".intercalate ([] ++ ".a" :: ["img"])) =
        some "https://a.example/1.png" ∧
      findWithin element (",".intercalate ([] ++ ".a" :: ["i"])) shownText? = some "Two" := by
  intro page
  -- The page is read once for all that is looked up on it.
  obtain ⟨hsome, hunclosed, hselected, hblank, himageless, htext, himage, helement⟩ :
      page.matching "#d" ≠ [] ∧ Css.Selector.list? (candidateOf " div[") = none ∧
      (page.select ".gone, div[,i").map WebPage.elementText = ["Two"] ∧
      (∀ place ∈ (page.matching ".a").head?, WebPage.elementText place = "") ∧
      (∀ place ∈ (page.matching ".a").head?, page.imageOf? place = none) ∧
      page.firstText? "i" = some "Two" ∧
      page.firstImage? "img" = some "https://a.example/1.png" ∧
      ∀ element ∈ page.matching "#d",
        (∀ place ∈ element.below,
          Css.anyHolds { scope := some element.number } place [.compound [.id "d"]] = false) ∧
        (∀ place ∈ (matchingBelow element ".a").head?, shownText? place = none) ∧
        findWithin element "i" shownText? = some "Two" := by
    decide +kernel
  obtain ⟨element, hmem⟩ := List.exists_mem_of_ne_nil (page.matching "#d") hsome
  obtain ⟨hinside, hblankInside, hsecond⟩ := helement element hmem
  obtain ⟨hpage, -, -, -, -, -⟩ :=
    @insert_fruitless page element " div[" (by decide) [".gone"] ["i"]
  obtain ⟨-, hwithin, -, -, -, -⟩ := @insert_fruitless page element "#d" (by decide) [] ["i"]
  obtain ⟨-, -, hfirst, -, hread, -⟩ := @insert_fruitless page element ".a" (by decide) [] ["i"]
  obtain ⟨-, -, -, hfirstImage, -, -⟩ :=
    @insert_fruitless page element ".a" (by decide) [] ["img"]
  exact ⟨element, hmem, ⟨hpage (.invalid hunclosed), hselected⟩,
    hwithin (.unmatched rfl hinside) shownText?, (hfirst hblank).trans htext,
    (hfirstImage himageless).trans himage, (hread shownText? hblankInside).trans hsecond⟩

end PluginRecovery
