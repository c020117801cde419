import Mathlib
import PluginRecovery.Proofs.Analysis.ScopeRecipe
import PluginRecovery.Proofs.Analysis.SelectorChoice
import PluginRecovery.Proofs.Pattern.Language

/-!
The form of what an analysis recovers. A selector that a scope finds has one of its field's words in
it or one of the marks of selectors, so it is not blank (`Scope.FindsText`), and no default is. An
address that a form captures has no quotes in it. So every listing, every place of a chapter's text
and all details that are read from a function are complete (`Strategy.analyze_wellFormed`).
-/

set_option autoImplicit false
set_option relaxedAutoImplicit false

namespace PluginRecovery

open PluginRecovery.Text PluginRecovery.Pattern

/-! ### Complete recipes -/

/-- The template is longer than five characters and has no quotes in it, and the selectors for
works, titles and links are not blank. -/
structure SearchRecipe.IsComplete (search : SearchRecipe) : Prop where
  length : 5 < search.urlTemplate.toList.length
  quotes : '\'' ∉ search.urlTemplate.toList ∧ '"' ∉ search.urlTemplate.toList
  item : blank search.item.toList = false
  title : blank search.title.toList = false
  link : blank search.link.toList = false

/-- There is a selector for each detail but the cover, and none of them is blank. -/
def DetailsRecipe.IsComplete (details : DetailsRecipe) : Prop :=
  ∀ selector ∈ [details.author, details.description, details.genres, details.status,
    details.chapters], ∃ text, selector = some text ∧ blank text.toList = false

/-- The selector is not blank, and the blocks are joined by one or two newlines or by a space. -/
structure ContentRecipe.IsComplete (content : ContentRecipe) : Prop where
  selector : blank content.selector.toList = false
  textJoin : content.textJoin ∈ ["\n\n", "\n", " "]

/-! ### Selectors that are found -/

namespace Field

/-- None of the words that a field is known by is blank, and no default. -/
theorem blank_keywords_and_defaults : ∀ field ∈ all,
    (∀ word ∈ field.keywords, blank word.toList = false) ∧
      ∀ default ∈ field.default, blank default.toList = false := by
  decide +kernel

/-- A candidate with one of the field's words in it is not blank. -/
theorem blank_of_matchesKeyword {field : Field} (hfield : field ∈ all) {candidate : String}
    (h : field.matchesKeyword candidate = true) : blank candidate.toList = false := by
  obtain ⟨word, hword, hcontains⟩ := List.any_eq_true.mp h
  have hblank := (blank_keywords_and_defaults field hfield).1 word hword
  rw [← blank_lower, blank, List.all_eq_false]
  obtain ⟨c, hc, hnot⟩ := List.all_eq_false.mp hblank
  exact ⟨c, Script.mem_of_contains hcontains c hc, hnot⟩

/-- A candidate with a mark of selectors in it is not blank. -/
theorem blank_of_hasSelectorMark {candidate : String} (h : hasSelectorMark candidate = true) :
    blank candidate.toList = false := by
  obtain ⟨c, hc, hmark⟩ := List.any_eq_true.mp h
  refine List.all_eq_false.mpr ⟨c, hc, ?_⟩
  simp only [Bool.or_eq_true, beq_iff_eq] at hmark
  rcases hmark with (rfl | rfl) | rfl <;> decide

/-- An argument that is captured has one of the words in it, in any case. -/
theorem exists_word_of_capture?_anchoredCall {words : List String} {form : CallForm}
    {text : List Char} {candidate : String}
    (h : (anchoredCall words form).pattern.capture? text = some candidate) :
    ∃ word ∈ words, ∃ front part back, candidate.toList = front ++ part ++ back ∧
      (anyCase word).Accepts part := by
  have hkeeps : (anchoredCall words form).pattern.keeps =
      [(1, unquoted ++ firstOf (words.map anyCase) ++ unquoted)] := by
    simp [anchoredCall, quoteMark, unquoted, anyNumber, keeps, keeps_firstOf_map keeps_anyCase]
  have halways : (anchoredCall words form).pattern.alwaysKeeps 1 = true := by
    simp [anchoredCall, alwaysKeeps]
  obtain ⟨body, hbody, haccepts⟩ := exists_accepts_of_capture? halways h
  rw [hkeeps, List.mem_singleton] at hbody
  obtain ⟨-, rfl⟩ := Prod.mk.inj hbody
  obtain ⟨_, back, htext, hfront, -⟩ := haccepts.of_append
  obtain ⟨before, part, rfl, -, hpart⟩ := hfront.of_append
  obtain ⟨p, hp, hword⟩ := hpart.of_firstOf
  obtain ⟨word, hmem, rfl⟩ := List.mem_map.mp hp
  exact ⟨word, hmem, before, part, back, htext, hword⟩

/-- An argument with one of the words in it, in any case, is not blank. -/
theorem blank_of_capture?_anchoredCall {words : List String}
    (hwords : ∀ word ∈ words, blank word.toList = false) {form : CallForm} {text : List Char}
    {candidate : String} (h : (anchoredCall words form).pattern.capture? text = some candidate) :
    blank candidate.toList = false := by
  obtain ⟨word, hword, front, part, back, htext, haccepts⟩ :=
    exists_word_of_capture?_anchoredCall h
  have hblank : blank part = false := (blank_of_accepts_anyCase haccepts).trans (hwords word hword)
  rw [htext]
  simp only [blank, List.all_append] at hblank ⊢
  simp [hblank]

end Field

/-! ### Selectors of a scope -/

/-- Whatever the scope finds for a field is not blank. -/
def Scope.FindsText (scope : Scope) : Prop :=
  ∀ field ∈ Field.all, ∀ text, ∀ found ∈ (scope.selector field text).value.toOption,
    blank found.toList = false

/-- What the functions of a plugin yield for a field is not blank. -/
theorem Functions.findsText (plugin : Script.Plugin) : (Scope.functions plugin).FindsText := by
  intro field hfield text found hfound
  change (selector field text).value.toOption = some found at hfound
  cases hvalue : (selector field text).value with
  | error miss => simp [hvalue, Except.toOption] at hfound
  | ok chosen =>
    obtain rfl : chosen = found := by simpa [hvalue, Except.toOption] using hfound
    have hrun : selector field text = ⟨.ok chosen, (selector field text).events⟩ := by
      rw [← hvalue]
    obtain ⟨_, _, _, hchoice, rfl, -⟩ := (selector_eq_ok_iff field text chosen _).mp hrun
    exact Field.blank_of_matchesKeyword hfield
      (Bool.and_eq_true_iff.mp ((belongs_iff field _).mp hchoice.belongs)).1

/-- The field has no forms but calls with its words, or a mark of selectors makes a candidate
acceptable. -/
theorem Field.forms_eq_nil_or_accepts : ∀ field ∈ Field.all,
    field.forms = [] ∨ field.accepts = hasSelectorMark := by
  simp [all, searchItem, searchTitle, searchLink, searchCover, author, description, genres, status,
    detailsCover, chapters, content]

/-- What a whole text yields for a field is not blank. -/
theorem WholeText.findsText (source : List Char) : (Scope.wholeText source).FindsText := by
  intro field hfield text found hfound
  change (selector field text).value.toOption = some found at hfound
  rw [selector, Chain.toOption_resolve] at hfound
  rcases Field.forms_eq_nil_or_accepts field hfield with hforms | haccepts
  · rw [Chain.first?_ofForms, Field.anchoredForms, hforms, List.nil_append,
      List.findSome?_map] at hfound
    obtain ⟨form, -, hcapture⟩ := List.exists_of_findSome?_eq_some hfound
    exact Field.blank_of_capture?_anchoredCall (Field.blank_keywords_and_defaults field hfield).1
      (Option.filter_eq_some_iff.mp hcapture).1
  · have haccepted := Chain.accepts_of_first?_ofForms hfound
    rw [haccepts] at haccepted
    exact Field.blank_of_hasSelectorMark haccepted

theorem Strategy.findsText (strategy : Strategy) (source : List Char) :
    (strategy.scope source).FindsText := by
  rw [scope]
  split_ifs
  · exact WholeText.findsText source
  · exact Functions.findsText _

/-! ### Addresses of listings -/

namespace Analysis

/-- No character of the text is a quote. -/
def Unquoted (text : List Char) : Prop :=
  ∀ c ∈ text, isQuoteMark c = false

theorem Unquoted.append {front back : List Char} (hfront : Unquoted front)
    (hback : Unquoted back) : Unquoted (front ++ back) :=
  List.forall_mem_append.mpr ⟨hfront, hback⟩

theorem unquoted_of_accepts_many {least : ℕ} {most : Option ℕ} {greedy : Bool} {text : List Char}
    (h : (many (!isQuoteMark ·) least most greedy).Accepts text) : Unquoted text :=
  fun c hc ↦ by simpa using h.of_many.1 c hc

theorem unquoted_of_accepts_literal {part : String} {text : List Char}
    (h : (literal part).Accepts text) (hpart : part.toList.all (!isQuoteMark ·) = true) :
    Unquoted text := by
  rw [h.of_literal]
  simpa [Unquoted] using hpart

/-- An address of the web has no quote in it. -/
theorem unquoted_of_accepts_webAddress {text : List Char} (h : WholeText.webAddress.Accepts text) :
    Unquoted text := by
  obtain ⟨front, rest, rfl, hfront, hrest⟩ := h.of_append
  obtain ⟨front, mark, rfl, hfront, hmark⟩ := hfront.of_append
  obtain ⟨http, secure, rfl, hhttp, hsecure⟩ := hfront.of_append
  have hsecure' : Unquoted secure := by
    rcases hsecure.of_optional with hs | rfl
    · exact unquoted_of_accepts_literal hs (by decide)
    · simp [Unquoted]
  have hhttp' := unquoted_of_accepts_literal hhttp (by decide)
  have hmark' := unquoted_of_accepts_literal hmark (by decide)
  exact ((hhttp'.append hsecure').append hmark').append (unquoted_of_accepts_many hrest)

/-- What a quoted address with a query in it has between its quotes. -/
def queryBody : Pattern :=
  unquoted ++ firstOf ["search", "page", "novel", "series", "browse"] ++ unquoted ++ "?" ++
    oneOrMore (!isQuoteMark ·)

/-- Nor has what is read as an address with a query. -/
theorem unquoted_of_accepts_queryBody {text : List Char} (h : queryBody.Accepts text) :
    Unquoted text := by
  obtain ⟨front, rest, rfl, hfront, hrest⟩ := h.of_append
  obtain ⟨front, mark, rfl, hfront, hmark⟩ := hfront.of_append
  obtain ⟨front, after, rfl, hfront, hafter⟩ := hfront.of_append
  obtain ⟨before, word, rfl, hbefore, hword⟩ := hfront.of_append
  have hword' : Unquoted word := by
    obtain ⟨p, hp, haccepts⟩ := hword.of_firstOf
    simp only [List.mem_cons, List.not_mem_nil, or_false] at hp
    rcases hp with rfl | rfl | rfl | rfl | rfl <;>
      exact unquoted_of_accepts_literal haccepts (by decide)
  have hmark' := unquoted_of_accepts_literal hmark (by decide)
  have hbefore' : Unquoted before := unquoted_of_accepts_many hbefore
  have hafter' : Unquoted after := unquoted_of_accepts_many hafter
  exact (((hbefore'.append hword').append hafter').append hmark').append
    (unquoted_of_accepts_many hrest)

/-- An address that a form captures has no quotes in it. -/
theorem unquoted_of_capture? {form : Form} (hform : form ∈ urlTemplateForms) {text : List Char}
    {candidate : String} (h : form.pattern.capture? text = some candidate) :
    Unquoted candidate.toList := by
  have hgroup {body : Pattern} (halways : form.pattern.alwaysKeeps 1 = true)
      (hkeeps : form.pattern.keeps = [(1, body)]) : body.Accepts candidate.toList := by
    obtain ⟨other, hother, haccepts⟩ := exists_accepts_of_capture? halways h
    rw [hkeeps, List.mem_singleton] at hother
    exact (Prod.mk.inj hother).2 ▸ haccepts
  simp only [urlTemplateForms, List.mem_cons, List.not_mem_nil, or_false] at hform
  rcases hform with rfl | rfl | rfl | rfl
  · exact unquoted_of_accepts_queryBody (hgroup rfl rfl)
  · exact unquoted_of_accepts_many (hgroup rfl rfl)
  · exact unquoted_of_accepts_many (hgroup rfl rfl)
  · exact unquoted_of_accepts_webAddress (accepts_of_capture? rfl h)

/-- The address of a listing is longer than five characters and has no quotes in it. -/
theorem urlTemplate_found (text : List Char) :
    let url := (urlTemplateChain.first? text).getD Default.urlTemplate
    5 < url.toList.length ∧ Unquoted url.toList := by
  cases hfirst : urlTemplateChain.first? text with
  | none =>
    refine ⟨by decide, ?_⟩
    simp [Unquoted, Default.urlTemplate, isQuoteMark]
  | some url =>
    have hlength : isTemplate url = true := Chain.accepts_of_first?_ofForms hfirst
    rw [urlTemplateChain, Chain.first?_ofForms] at hfirst
    obtain ⟨form, hform, hcapture⟩ := List.exists_of_findSome?_eq_some hfirst
    refine ⟨?_, unquoted_of_capture? hform (Option.filter_eq_some_iff.mp hcapture).1⟩
    simpa [isTemplate] using hlength

/-! ### Recipes -/

variable {scope : Scope}

/-- The selector of a field with a default is never blank. -/
theorem blank_selectorOrBlank (hscope : scope.FindsText) {field : Field}
    (hfield : field ∈ Field.all) (hdefault : field.default.isSome = true) (text : List Char) :
    blank (selectorOrBlank scope field text).value.toList = false := by
  obtain ⟨default, hdefault⟩ := Option.isSome_iff_exists.mp hdefault
  rw [value_selectorOrBlank, value_selector, hdefault]
  cases hfound : (scope.selector field text).value.toOption with
  | none => exact (Field.blank_keywords_and_defaults field hfield).2 default hdefault
  | some found => exact hscope field hfield text found hfound

/-- A listing that is found at all has all its selectors, if need be by default. -/
theorem isComplete_searchRecipe (hscope : scope.FindsText) :
    ∀ search ∈ (searchRecipe scope).value, search.IsComplete := by
  rw [value_searchRecipe]
  rintro search hsearch
  obtain ⟨text, -, rfl⟩ := Option.map_eq_some_iff.mp hsearch
  obtain ⟨hlength, hquotes⟩ := urlTemplate_found text
  constructor
  · exact hlength
  · exact ⟨fun h ↦ absurd (hquotes _ h) (by decide), fun h ↦ absurd (hquotes _ h) (by decide)⟩
  · exact blank_selectorOrBlank hscope (by simp [Field.all]) rfl text
  · exact blank_selectorOrBlank hscope (by simp [Field.all]) rfl text
  · exact blank_selectorOrBlank hscope (by simp [Field.all]) rfl text

/-- Details that are read from a text have all their selectors but that of the cover. -/
theorem isComplete_detailsIn (hscope : scope.FindsText) (text : List Char) :
    (detailsIn scope text).IsComplete := by
  have hfield {field : Field} (hfield : field ∈ Field.all)
      (hdefault : field.default.isSome = true) :
      ∃ found, some (selectorOrBlank scope field text).value = some found ∧
        blank found.toList = false :=
    ⟨_, rfl, blank_selectorOrBlank hscope hfield hdefault text⟩
  intro selector hselector
  simp only [detailsIn, List.mem_cons, List.not_mem_nil, or_false] at hselector
  rcases hselector with rfl | rfl | rfl | rfl | rfl <;> exact hfield (by simp [Field.all]) rfl

theorem isComplete_generic : DetailsRecipe.generic.IsComplete := by
  intro selector hselector
  simp only [DetailsRecipe.generic, List.mem_cons, List.not_mem_nil, or_false] at hselector
  rcases hselector with rfl | rfl | rfl | rfl | rfl <;> exact ⟨_, rfl, by decide⟩

/-- The blocks of a chapter are joined by one or two newlines or by a space. -/
theorem textJoin_mem (body : List Char) : textJoin body ∈ ["\n\n", "\n", " "] := by
  have hforms : ∀ form ∈ joinForms, form.2 ∈ ["\n\n", "\n", " "] := by
    simp [joinForms]
  rw [textJoin]
  cases hform : joinForms.find? fun form ↦ form.1.occursIn body with
  | none => exact List.mem_cons_self
  | some form => exact hforms form (List.mem_of_find?_eq_some hform)

theorem isComplete_genericContent : ContentRecipe.generic.IsComplete :=
  ⟨by decide, by decide⟩

/-- A chapter always has a selector and a text to join its blocks by. -/
theorem isComplete_contentRecipe (hscope : scope.FindsText) :
    (contentRecipe scope).value.IsComplete := by
  rw [value_contentRecipe]
  cases scope.contentText.value with
  | none => exact isComplete_genericContent
  | some text =>
    exact ⟨blank_selectorOrBlank hscope (by simp [Field.all]) rfl text, textJoin_mem text⟩

end Analysis

/-- What an analysis recovers is complete: a listing if there is one, the place of a chapter's text,
and the details, unless the whole text was read and has no function for them. Then there is no
selector for details at all. There never is one for the name or the address of a chapter. -/
theorem Strategy.analyze_wellFormed (strategy : Strategy) (source : List Char) :
    let recipe := (strategy.analyze source).value
    (∀ search ∈ recipe.search, search.IsComplete) ∧
      (∃ details, recipe.details = some details ∧
        details.chapterName = none ∧ details.chapterUrl = none ∧
        (details.IsComplete ∨ details = DetailsRecipe.none ∧
          strategy.readsWholeText source = true ∧
          (Scope.wholeText source).detailsText.value = none)) ∧
      ∃ content, recipe.content = some content ∧ content.IsComplete := by
  have hscope := strategy.findsText source
  rw [value_analyze, Scope.value_recipe]
  refine ⟨Analysis.isComplete_searchRecipe hscope, ⟨_, rfl, ?_⟩, _, rfl,
    Analysis.isComplete_contentRecipe hscope⟩
  rw [Analysis.value_detailsRecipe]
  cases htext : (strategy.scope source).detailsText.value with
  | some text => exact ⟨rfl, rfl, .inl (Analysis.isComplete_detailsIn hscope text)⟩
  | none =>
    rw [scope] at htext ⊢
    cases hwhole : strategy.readsWholeText source with
    | true =>
      rw [hwhole, if_pos rfl] at htext
      exact ⟨rfl, rfl, .inr ⟨rfl, rfl, htext⟩⟩
    | false => exact ⟨rfl, rfl, .inl Analysis.isComplete_generic⟩

end PluginRecovery
