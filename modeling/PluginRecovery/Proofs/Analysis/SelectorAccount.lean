import Mathlib
import PluginRecovery.Proofs.Analysis.ScopeRecipe
import PluginRecovery.Proofs.Trace.Account

/-!
What the events of an analysis tell about the recipe. A `Slot` is a place of the recipe that one
field fills: the address of the listing, or a selector. In the events each of the slots whose text
the scope has is accounted for, one after another, and between them stand events about other things
(`Chronicle`). Such a chronicle is what a recipe of any scope writes whose own events are about
other things and whose selectors are found by chains (`Scope.Reports.chronicle_recipe`), and both
scopes are of this kind. So the events of each field stand together, and they account for what is
stored (`Strategy.accounts_analyze`).
-/

set_option autoImplicit false
set_option relaxedAutoImplicit false

namespace PluginRecovery

/-! ### What a recipe stores -/

/-- A place of a recipe that one field fills. -/
structure Slot where
  name : String
  default : Option String
  /-- The text that it is looked for in, if the scope has one. -/
  text : Scope → Option (List Char)
  stored : Recipe → Option String

namespace Slot

def urlTemplate : Slot where
  name := "search.url"
  default := some Default.urlTemplate
  text scope := scope.searchText.value
  stored recipe := recipe.search.map SearchRecipe.urlTemplate

/-- A selector of the listing. -/
def ofSearch (field : Field) (read : SearchRecipe → Option String) : Slot where
  name := field.name
  default := field.default
  text scope := scope.searchText.value
  stored recipe := recipe.search.bind read

/-- A selector of the details. -/
def ofDetails (field : Field) (read : DetailsRecipe → Option String) : Slot where
  name := field.name
  default := field.default
  text scope := scope.detailsText.value
  stored recipe := recipe.details.bind read

def content : Slot where
  name := Field.content.name
  default := Field.content.default
  text scope := scope.contentText.value
  stored recipe := recipe.content.map ContentRecipe.selector

/-- The places of the listing. -/
def ofListing : List Slot :=
  [urlTemplate, ofSearch Field.searchItem (some ·.item), ofSearch Field.searchTitle (some ·.title),
    ofSearch Field.searchLink (some ·.link), ofSearch Field.searchCover SearchRecipe.cover]

/-- The places of the details. -/
def ofPage : List Slot :=
  [ofDetails Field.author DetailsRecipe.author,
    ofDetails Field.description DetailsRecipe.description,
    ofDetails Field.genres DetailsRecipe.genres, ofDetails Field.status DetailsRecipe.status,
    ofDetails Field.detailsCover DetailsRecipe.cover,
    ofDetails Field.chapters DetailsRecipe.chapters]

def all : List Slot :=
  ofListing ++ ofPage ++ [content]

def names : List String :=
  "search.url" :: Field.all.map Field.name

theorem map_name_all : all.map name = names :=
  rfl

/-- No two places are filled by one field. -/
theorem nodup_names : names.Nodup := by
  decide

/-- The scope has the text that the slot is filled from. -/
def isSought (scope : Scope) (slot : Slot) : Bool :=
  (slot.text scope).isSome

theorem text_of_mem_ofListing (scope : Scope) :
    ∀ slot ∈ ofListing, slot.text scope = scope.searchText.value := by
  simp [ofListing, urlTemplate, ofSearch]

theorem text_of_mem_ofPage (scope : Scope) :
    ∀ slot ∈ ofPage, slot.text scope = scope.detailsText.value := by
  simp [ofPage, ofDetails]

/-- Slots that are filled from one text are sought together. -/
theorem filter_isSought {scope : Scope} {slots : List Slot} {text : Option (List Char)}
    (h : ∀ slot ∈ slots, slot.text scope = text) :
    slots.filter (isSought scope) = if text.isSome then slots else [] := by
  split_ifs with htext
  · exact List.filter_eq_self.mpr fun slot hslot ↦
      (congrArg Option.isSome (h slot hslot)).trans htext
  · exact List.filter_eq_nil_iff.mpr fun slot hslot ↦
      (congrArg Option.isSome (h slot hslot)).trans_ne htext

end Slot

/-! ### Chronicles -/

/-- The events account for what the recipe stores in the slots, one after another. Between the
accounts stand events that are about no slot at all. -/
inductive Chronicle (recipe : Recipe) : List Slot → List Event → Prop
  | nil : Chronicle recipe [] []
  | aside {slots : List Slot} {events : List Event} (event : Event) (h : event.field ∉ Slot.names)
    (hrest : Chronicle recipe slots events) : Chronicle recipe slots (event :: events)
  | account {slot : Slot} {slots : List Slot} {block events : List Event} {stored : Option String}
    (hstored : slot.stored recipe = stored)
    (h : Accounts slot.name slot.default stored block)
    (hrest : Chronicle recipe slots events) : Chronicle recipe (slot :: slots) (block ++ events)

/-- The events of the value are about no slot. -/
def Traced.Aside {α : Type} (t : Traced α) : Prop :=
  ∀ event ∈ t.events, event.field ∉ Slot.names

namespace Traced.Aside

variable {α β : Type}

theorem pure (a : α) : (Pure.pure a : Traced α).Aside :=
  List.forall_mem_nil _

theorem record {field : String} (h : field ∉ Slot.names) {event : Event}
    (hevent : event.field = field) : (Traced.record event).Aside :=
  List.forall_mem_singleton.mpr (hevent ▸ h)

theorem bind {t : Traced α} {f : α → Traced β} (ht : t.Aside) (hf : ∀ a, (f a).Aside) :
    (t >>= f).Aside :=
  List.forall_mem_append.mpr ⟨ht, hf t.value⟩

variable [Summary α] {field : String} {steps : List (Step α)} {text : List Char}

/-- The chain of a field without a slot tells nothing about slots. -/
theorem resolve (h : field ∉ Slot.names) : ((Chain.mk field steps).resolve text).Aside := by
  intro event hevent
  rw [Chain.events_resolve] at hevent
  exact Chain.field_eq_of_mem_firstOf hevent ▸ h

/-- Nor does it when it takes the default. -/
theorem resolveOr (h : field ∉ Slot.names) (default : α) :
    ((Chain.mk field steps).resolveOr text default).Aside := by
  refine bind (resolve h) fun attempt ↦ ?_
  cases attempt with
  | ok value => exact pure value
  | error miss => exact bind (record h rfl) fun _ ↦ pure default

end Traced.Aside

namespace Chronicle

variable {recipe : Recipe} {slots others : List Slot} {events front : List Event}

/-- Events that are about no slot may stand in front of a chronicle. -/
theorem asides (hfront : ∀ event ∈ front, event.field ∉ Slot.names)
    (h : Chronicle recipe slots events) : Chronicle recipe slots (front ++ events) := by
  induction front with
  | nil => exact h
  | cons event front ih =>
    obtain ⟨hevent, hfront⟩ := List.forall_mem_cons.mp hfront
    exact .aside event hevent (ih hfront)

/-- Chronicles of slots that follow each other are one chronicle. -/
theorem append (hfront : Chronicle recipe others front) (h : Chronicle recipe slots events) :
    Chronicle recipe (others ++ slots) (front ++ events) := by
  induction hfront with
  | nil => exact h
  | aside event hevent _ ih => exact .aside event hevent ih
  | account hstored haccount _ ih =>
    rw [List.append_assoc]
    exact .account hstored haccount ih

/-- A field that fills none of the slots is not spoken of. -/
theorem field_ne (h : Chronicle recipe slots events) {name : String} (hname : name ∈ Slot.names)
    (hslots : name ∉ slots.map Slot.name) : ∀ event ∈ events, event.field ≠ name := by
  induction h with
  | nil => exact List.forall_mem_nil _
  | aside event hevent _ ih =>
    exact List.forall_mem_cons.mpr ⟨fun heq ↦ hevent (heq ▸ hname), ih hslots⟩
  | account _ haccount _ ih =>
    rw [List.map_cons, List.mem_cons, not_or] at hslots
    exact List.forall_mem_append.mpr
      ⟨fun event hevent heq ↦ hslots.1 (heq ▸ haccount.field_eq event hevent), ih hslots.2⟩

/-- The events of each slot stand together. -/
theorem exists_gathered (h : Chronicle recipe slots events) (hnodup : (slots.map Slot.name).Nodup)
    (hnames : ∀ slot ∈ slots, slot.name ∈ Slot.names) {slot : Slot} (hslot : slot ∈ slots) :
    ∃ block, Gathered slot.name events block ∧
      Accounts slot.name slot.default (slot.stored recipe) block := by
  induction h with
  | nil => exact absurd hslot List.not_mem_nil
  | aside event hevent _ ih =>
    obtain ⟨block, hblock, haccount⟩ := ih hnodup hnames hslot
    have hfield : event.field ≠ slot.name := fun heq ↦ hevent (heq ▸ hnames slot hslot)
    exact ⟨block, hblock.after (List.forall_mem_singleton.mpr hfield), haccount⟩
  | @account first rest block events _ hstored haccount hrest ih =>
    rw [List.map_cons, List.nodup_cons] at hnodup
    rcases List.mem_cons.mp hslot with rfl | hslot
    · have hlater := hrest.field_ne (hnames slot List.mem_cons_self) hnodup.1
      exact ⟨block, (Gathered.self haccount.field_eq).before hlater, hstored ▸ haccount⟩
    · obtain ⟨later, hlater, haccount'⟩ :=
        ih hnodup.2 (fun other h ↦ hnames other (List.mem_cons_of_mem _ h)) hslot
      have hne : first.name ≠ slot.name := fun heq ↦
        hnodup.1 (heq ▸ List.mem_map_of_mem hslot)
      exact ⟨later, hlater.after fun event hevent ↦ haccount.field_eq event hevent ▸ hne, haccount'⟩

end Chronicle

/-! ### The parts of a recipe -/

/-- What a scope tells by itself is about no slot, and it finds selectors by chains of their
fields. -/
structure Scope.Reports (scope : Scope) : Prop where
  identity : scope.identity.Aside
  searchText : scope.searchText.Aside
  detailsText : scope.detailsText.Aside
  contentText : scope.contentText.Aside
  byChain (field : Field) (text : List Char) : ∃ chain : Chain String,
    chain.field = field.name ∧ scope.selector field text = chain.resolve text

namespace Scope.Reports

open Analysis hiding selector

variable {scope : Scope} (hscope : scope.Reports)

include hscope

/-- The events of a selector account for it. -/
theorem accounts_selector (field : Field) (text : List Char) :
    Accounts field.name field.default (Analysis.selector scope field text).value
      (Analysis.selector scope field text).events := by
  obtain ⟨chain, hfield, hchain⟩ := hscope.byChain field text
  rw [Analysis.selector, Traced.value_bind, Traced.events_bind, hchain, Chain.events_resolve,
    Chain.resolve, Traced.value_bind, hfield]
  refine Chain.accounts_firstOf (fun value hvalue ↦ ?_) fun hmissed ↦ ?_
  · rw [Option.mem_def.mp hvalue]
    exact ⟨rfl, rfl⟩
  · rw [hmissed]
    cases hdefault : field.default with
    | none => exact .nothing rfl
    | some default => exact .defaulted rfl

theorem accounts_selectorOrBlank {field : Field} (hdefault : field.default.isSome = true)
    (text : List Char) :
    Accounts field.name field.default (some (selectorOrBlank scope field text).value)
      (selectorOrBlank scope field text).events := by
  obtain ⟨default, hdefault⟩ := Option.isSome_iff_exists.mp hdefault
  have hvalue : some (selectorOrBlank scope field text).value =
      (Analysis.selector scope field text).value := by
    rw [value_selectorOrBlank, value_selector, hdefault]
    cases (scope.selector field text).value.toOption <;> rfl
  rw [hvalue, selectorOrBlank, Traced.events_bind, Traced.events_pure, List.append_nil]
  exact hscope.accounts_selector field text

variable {recipe : Recipe}

/-- The recipe of a listing accounts for its slots in order. -/
theorem chronicle_searchRecipe (hrecipe : recipe.search = (searchRecipe scope).value) :
    Chronicle recipe (Slot.ofListing.filter (Slot.isSought scope)) (searchRecipe scope).events := by
  rw [Slot.filter_isSought (Slot.text_of_mem_ofListing scope), searchRecipe, Traced.events_bind]
  refine .asides hscope.searchText ?_
  rw [value_searchRecipe] at hrecipe
  cases htext : scope.searchText.value with
  | none => exact .nil
  | some text =>
    rw [htext, Option.map_some] at hrecipe
    -- The default is short enough to stand in its event as a whole.
    have haddress := urlTemplateChain.accounts_resolveOr text
      (show Summary.summary Default.urlTemplate = Default.urlTemplate from rfl)
    rw [Chain.value_resolveOr] at haddress
    have hselector {field : Field} (h : field.default.isSome = true) :=
      hscope.accounts_selectorOrBlank h text
    refine .account (congrArg (·.map SearchRecipe.urlTemplate) hrecipe) haddress ?_
    refine .account (congrArg (·.bind (some ·.item)) hrecipe) (hselector rfl) ?_
    refine .account (congrArg (·.bind (some ·.title)) hrecipe) (hselector rfl) ?_
    refine .account (congrArg (·.bind (some ·.link)) hrecipe) (hselector rfl) ?_
    exact .account (congrArg (·.bind SearchRecipe.cover) hrecipe) (hscope.accounts_selector _ text)
      .nil

/-- The recipe of details accounts for its slots in order. -/
theorem chronicle_detailsRecipe (hrecipe : recipe.details = some (detailsRecipe scope).value) :
    Chronicle recipe (Slot.ofPage.filter (Slot.isSought scope)) (detailsRecipe scope).events := by
  rw [Slot.filter_isSought (Slot.text_of_mem_ofPage scope), detailsRecipe, Traced.events_bind]
  refine .asides hscope.detailsText ?_
  rw [value_detailsRecipe] at hrecipe
  cases htext : scope.detailsText.value with
  | none => exact .aside _ (show "details" ∉ Slot.names by decide) .nil
  | some text =>
    rw [htext, Option.map_some, Option.getD_some] at hrecipe
    have hselector {field : Field} (h : field.default.isSome = true) :=
      hscope.accounts_selectorOrBlank h text
    refine .account (congrArg (·.bind DetailsRecipe.author) hrecipe) (hselector rfl) ?_
    refine .account (congrArg (·.bind DetailsRecipe.description) hrecipe) (hselector rfl) ?_
    refine .account (congrArg (·.bind DetailsRecipe.genres) hrecipe) (hselector rfl) ?_
    refine .account (congrArg (·.bind DetailsRecipe.status) hrecipe) (hselector rfl) ?_
    refine .account (congrArg (·.bind DetailsRecipe.cover) hrecipe)
      (hscope.accounts_selector _ text) ?_
    exact .account (congrArg (·.bind DetailsRecipe.chapters) hrecipe) (hselector rfl) .nil

theorem chronicle_contentRecipe (hrecipe : recipe.content = some (contentRecipe scope).value) :
    Chronicle recipe ([Slot.content].filter (Slot.isSought scope))
      (contentRecipe scope).events := by
  have hslots : ∀ slot ∈ [Slot.content], slot.text scope = scope.contentText.value := by
    simp [Slot.content]
  rw [Slot.filter_isSought hslots, contentRecipe, Traced.events_bind]
  refine .asides hscope.contentText ?_
  rw [value_contentRecipe] at hrecipe
  cases htext : scope.contentText.value with
  | none => exact .aside _ (by decide) .nil
  | some text =>
    rw [htext, Option.map_some, Option.getD_some] at hrecipe
    exact .account (congrArg (·.map ContentRecipe.selector) hrecipe)
      (hscope.accounts_selectorOrBlank rfl text) .nil

/-- The events of a recipe account for the slots whose text the scope has. -/
theorem chronicle_recipe : Chronicle scope.recipe.value (Slot.all.filter (Slot.isSought scope))
    scope.recipe.events := by
  have hparts : scope.recipe.events = scope.identity.events ++ ((searchRecipe scope).events ++
      ((detailsRecipe scope).events ++ (contentRecipe scope).events)) := by
    simp only [Scope.recipe, Traced.events_bind, Traced.events_pure, List.append_nil]
  rw [hparts, Slot.all, List.append_assoc, List.filter_append, List.filter_append]
  exact .asides hscope.identity ((hscope.chronicle_searchRecipe rfl).append
    ((hscope.chronicle_detailsRecipe rfl).append (hscope.chronicle_contentRecipe rfl)))

end Scope.Reports

/-! ### The two scopes -/

namespace WholeText

theorem aside_bodyOf {field : String} (hfield : field ∉ Slot.names) (source : List Char)
    (forms : List Form) : (bodyOf field source forms).Aside := by
  induction forms with
  | nil => exact .pure none
  | cons form forms ih =>
    rw [bodyOf]
    cases (form.pattern.search? source).bind fun found ↦ found.group? 1 with
    | none => exact ih
    | some span => exact (Traced.Aside.record hfield rfl).bind fun _ ↦ .pure _

theorem aside_settleName (name id : Option String) : (settleName name id).Aside := by
  have hname : "metadata.name" ∉ Slot.names := by decide
  cases name with
  | some name => exact .pure name
  | none =>
    cases id with
    | none => exact (Traced.Aside.record hname rfl).bind fun _ ↦ .pure _
    | some id =>
      rw [settleName]
      split_ifs
      · exact (Traced.Aside.record hname rfl).bind fun _ ↦ .pure _
      · exact (Traced.Aside.record hname rfl).bind fun _ ↦ .pure _

theorem aside_identity (source : List Char) : (identity source).Aside := by
  refine .bind (.resolve (by decide)) fun cluster ↦ ?_
  cases cluster with
  | ok cluster => exact .pure _
  | error miss =>
    refine .bind (.resolve (by decide)) fun _ ↦ ?_
    refine .bind (.resolveOr (by decide) _) fun _ ↦ ?_
    refine .bind (.resolveOr (by decide) _) fun _ ↦ ?_
    refine .bind (.resolveOr (by decide) _) fun _ ↦ ?_
    refine .bind (.resolveOr (by decide) _) fun _ ↦ ?_
    refine .bind (.resolve (by decide)) fun _ ↦ ?_
    exact .bind (aside_settleName _ _) fun _ ↦ .pure _

theorem aside_searchText (source : List Char) : (searchText source).Aside := by
  have hsearch : "search" ∉ Slot.names := by decide
  rw [searchText]
  split_ifs
  · exact (Traced.Aside.record hsearch rfl).bind fun _ ↦ .pure _
  · exact (Traced.Aside.record hsearch rfl).bind fun _ ↦ .pure _

theorem reports (source : List Char) : (Scope.wholeText source).Reports where
  identity := aside_identity source
  searchText := aside_searchText source
  detailsText := aside_bodyOf (by decide) source detailsForms
  contentText := aside_bodyOf (by decide) source contentForms
  byChain field _ := ⟨Chain.ofForms field.name field.anchoredForms field.accepts, rfl, rfl⟩

end WholeText

namespace Functions

theorem aside_bodyOf {field : String} (hfield : field ∉ Slot.names) (plugin : Script.Plugin)
    (candidates : List String) : (bodyOf plugin field candidates).Aside := by
  rw [bodyOf]
  cases plugin.firstFunction? candidates with
  | none => exact (Traced.Aside.record hfield rfl).bind fun _ ↦ .pure _
  | some function => exact (Traced.Aside.record hfield rfl).bind fun _ ↦ .pure _

theorem aside_identityOf (properties : Script.Properties) : (identityOf properties).Aside := by
  have hname : "metadata.name" ∉ Slot.names := by decide
  refine .bind (.resolve (by decide)) fun id ↦ .bind (.resolve hname) fun found ↦ ?_
  -- All three ways to a name go on with the other fields.
  extract_lets rest
  have hrest (name : String) : (rest name).Aside := by
    refine .bind (.resolveOr (by decide) _) fun _ ↦ ?_
    refine .bind (.resolveOr (by decide) _) fun _ ↦ ?_
    refine .bind (.resolveOr (by decide) _) fun _ ↦ ?_
    exact .bind (.resolveOr (by decide) _) fun _ ↦ .pure _
  cases found.toOption with
  | some name => exact .bind (.pure name) hrest
  | none =>
    cases id.toOption with
    | some id => exact .bind (.pure _) hrest
    | none => exact .bind (.record hname rfl) fun _ ↦ .bind (.pure _) hrest

theorem reports (plugin : Script.Plugin) : (Scope.functions plugin).Reports where
  identity := aside_identityOf plugin.mergedProperties
  searchText := aside_bodyOf (by decide) plugin searchNames
  detailsText := aside_bodyOf (by decide) plugin detailsNames
  contentText := aside_bodyOf (by decide) plugin contentNames
  byChain field _ := ⟨⟨field.name, genericCalls.map (selectorStep field)⟩, rfl, rfl⟩

end Functions

namespace Strategy

/-- Whatever the strategy, its scope finds selectors by chains and tells nothing else of slots. -/
theorem reports_scope (strategy : Strategy) (source : List Char) :
    (strategy.scope source).Reports := by
  rw [scope]
  split_ifs
  · exact WholeText.reports source
  · exact Functions.reports _

theorem aside_partEvents (strategy : Strategy) (source : List Char) :
    ∀ event ∈ strategy.partEvents source, event.field ∉ Slot.names := by
  have hparts : (Script.Plugin.parse source).Aside :=
    .bind (.resolve (by decide)) fun _ ↦ .pure _
  cases strategy with
  | regex => exact List.forall_mem_nil _
  | structural | auto => exact hparts

/-- An analysis accounts for every slot that its scope has a text for. -/
theorem chronicle_analyze (strategy : Strategy) (source : List Char) :
    Chronicle (strategy.analyze source).value
      (Slot.all.filter (Slot.isSought (strategy.scope source)))
      (strategy.analyze source).events := by
  rw [value_analyze, events_analyze]
  exact .asides (strategy.aside_partEvents source) (strategy.reports_scope source).chronicle_recipe

/-- The events of each field that fills a slot stand together. There are none if the scope has no
text for it; else they account for what is stored there, so that no field has both a match and a
default. -/
theorem accounts_analyze (strategy : Strategy) (source : List Char) {slot : Slot}
    (hslot : slot ∈ Slot.all) :
    let report := strategy.analyze source
    (∃ block, Gathered slot.name report.events block ∧
        (block = [] ∧ slot.text (strategy.scope source) = none ∨
          Accounts slot.name slot.default (slot.stored report.value) block)) ∧
      ¬ ((matchedStep? slot.name report.events).isSome = true ∧
        isDefaulted slot.name report.events = true) := by
  have hchronicle := strategy.chronicle_analyze source
  have hnames : ∀ slot ∈ Slot.all, slot.name ∈ Slot.names := fun slot h ↦
    Slot.map_name_all ▸ List.mem_map_of_mem h
  have hsub : ((Slot.all.filter (Slot.isSought (strategy.scope source))).map Slot.name).Nodup :=
    ((List.filter_sublist).map _).nodup (Slot.map_name_all ▸ Slot.nodup_names)
  have hblock : ∃ block, Gathered slot.name (strategy.analyze source).events block ∧
      (block = [] ∧ slot.text (strategy.scope source) = none ∨
        Accounts slot.name slot.default (slot.stored (strategy.analyze source).value) block) := by
    cases htext : slot.text (strategy.scope source) with
    | some text =>
      have hmem : slot ∈ Slot.all.filter (Slot.isSought (strategy.scope source)) :=
        List.mem_filter.mpr ⟨hslot, congrArg Option.isSome htext⟩
      obtain ⟨block, hblock, haccount⟩ := hchronicle.exists_gathered hsub
        (fun slot h ↦ hnames slot (List.mem_filter.mp h).1) hmem
      exact ⟨block, hblock, .inr haccount⟩
    | none =>
      refine ⟨[], .absent (hchronicle.field_ne (hnames slot hslot) fun hmem ↦ ?_), .inl ⟨rfl, rfl⟩⟩
      obtain ⟨other, hother, hname⟩ := List.mem_map.mp hmem
      obtain ⟨hother, hsought⟩ := List.mem_filter.mp hother
      obtain rfl : other = slot := List.inj_on_of_nodup_map
        (Slot.map_name_all ▸ Slot.nodup_names) hother hslot hname
      rw [Slot.isSought, htext] at hsought
      exact Bool.false_ne_true hsought
  obtain ⟨block, hgathered, haccount⟩ := hblock
  exact ⟨⟨block, hgathered, haccount⟩,
    not_matchedStep?_and_isDefaulted hgathered (haccount.imp_left And.left)⟩

/-- The author of a function's body, which the last form of a call finds. -/
theorem accounts_analyze_author :
    let slot := Slot.ofDetails Field.author DetailsRecipe.author
    let source := "parseNovel()\x7bx.find('.author')\x7d".toList
    let report := Strategy.structural.analyze source
    (slot ∈ Slot.all ∧ slot.stored report.value = some ".author" ∧
        matchedStep? slot.name report.events = some "find-call") ∧
      (∃ block, Gathered slot.name report.events block ∧
        (block = [] ∧ slot.text (Strategy.structural.scope source) = none ∨
          Accounts slot.name slot.default (slot.stored report.value) block)) ∧
      ¬ ((matchedStep? slot.name report.events).isSome = true ∧
        isDefaulted slot.name report.events = true) := by
  intro slot source report
  have hslot : slot ∈ Slot.all := by simp [slot, Slot.all, Slot.ofPage]
  have hfound : slot.stored report.value = some ".author" ∧
      matchedStep? slot.name report.events = some "find-call" := by decide +kernel
  exact ⟨⟨hslot, hfound⟩, Strategy.accounts_analyze .structural source hslot⟩

end Strategy

end PluginRecovery
