import Mathlib
import PluginRecovery.Source.Basic

/-!
What a source asks the network for. Where a link leads is told by two relations: it `LeadsTo` an
address, itself or one relative to the site, or it `LeadsNowhere` (`toOption_resolve_eq_some_iff`,
`toOption_resolve_eq_none_iff`). Each `Operation` follows one link, unless the recipe lacks the part
that it needs (`link?_eq_none_iff`). So it comes down to one call of the fetcher or none, and
without a page it answers what is known already (`perform_eq`); a fetcher that keeps a list of what
it is asked for has one address more on it at most (`perform_recorded`).
-/

set_option autoImplicit false
set_option relaxedAutoImplicit false

namespace PluginRecovery

variable {m : Type → Type} [Monad m]

/-- The fetcher that also writes down the addresses that it is asked for, the last one at the
end. -/
def Fetch.recorded (fetch : Fetch m) : Fetch (StateT (List String) m) := fun url ↦ do
  modify (· ++ [url])
  liftM (fetch url)

/-- A recorded request answers as the request does and is added to the log. -/
theorem Fetch.run_recorded [LawfulMonad m] (fetch : Fetch m) (url : String) (log : List String) :
    (fetch.recorded url).run log = (fun answer ↦ (answer, log ++ [url])) <$> fetch url := by
  simp [recorded]

namespace Source

/-! ### Links -/

/-- The link leads to the address: to itself when it is absolute, else to what it names relative to
the site. -/
inductive LeadsTo (source : Source) (link : String) : String → Prop
  | absolute {url : Url} (h : Url.read? link = .ok url) : LeadsTo source link link
  | relative {base url : Url} (h : Url.read? link = .error .relativeWithoutBase)
    (hbase : Url.read? source.baseUrl = .ok base) (hjoin : base.join link = .ok url) :
    LeadsTo source link url.text

/-- The link is no absolute address, and either it lacks more than a base or it cannot be joined to
the address of the site. -/
def LeadsNowhere (source : Source) (link : String) : Prop :=
  ∃ error, Url.read? link = .error error ∧
    (error ≠ .relativeWithoutBase ∨
      ∀ base url, Url.read? source.baseUrl = .ok base → base.join link ≠ .ok url)

variable {source : Source} {link : String}

/-- A link leads somewhere or nowhere, and not both. -/
theorem not_exists_leadsTo_iff : (¬ ∃ url, source.LeadsTo link url) ↔ source.LeadsNowhere link := by
  constructor
  · intro h
    cases hread : Url.read? link with
    | ok url => exact absurd ⟨link, .absolute hread⟩ h
    | error error =>
      refine ⟨error, hread, ?_⟩
      by_cases herror : error = .relativeWithoutBase
      · subst herror
        exact .inr fun base url hbase hjoin ↦ h ⟨url.text, .relative hread hbase hjoin⟩
      · exact .inl herror
  · rintro ⟨error, hread, hwhy⟩ ⟨url, hleads⟩
    cases hleads with
    | absolute h => exact absurd (hread.symm.trans h) (by simp)
    | relative h hbase hjoin =>
      rcases hwhy with hne | hnot
      · exact hne (Except.error.inj (hread.symm.trans h))
      · exact hnot _ _ hbase hjoin

/-- An absolute link is left as it is written. -/
theorem resolve_of_absolute {url : Url} (h : Url.read? link = .ok url) :
    source.resolve link = .ok link := by
  rw [resolve, h]

/-- A link that lacks nothing but a base is joined to the address of the site. -/
theorem resolve_of_relative (h : Url.read? link = .error .relativeWithoutBase) :
    source.resolve link =
      (Url.read? source.baseUrl).bind fun base ↦ (base.join link).map Url.text := by
  have htext (joined : Except UrlError Url) :
      (do return (← joined).text) = joined.map Url.text := by
    cases joined <;> rfl
  rw [resolve, h]
  exact congrArg (Url.read? source.baseUrl).bind (funext fun base ↦ htext (base.join link))

theorem resolve_of_error {error : UrlError} (h : Url.read? link = .error error)
    (hne : error ≠ .relativeWithoutBase) : source.resolve link = .error error := by
  rw [resolve, h]
  cases error with
  | relativeWithoutBase => exact absurd rfl hne
  | _ => rfl

/-- A link is resolved to the address that it leads to. -/
theorem toOption_resolve_eq_some_iff {url : String} :
    (source.resolve link).toOption = some url ↔ source.LeadsTo link url := by
  constructor
  · intro h
    cases hread : Url.read? link with
    | ok address =>
      rw [resolve_of_absolute hread] at h
      obtain rfl := Option.some.inj h
      exact .absolute hread
    | error error =>
      by_cases herror : error = .relativeWithoutBase
      · subst herror
        rw [resolve_of_relative hread] at h
        cases hbase : Url.read? source.baseUrl with
        | error error => simp [hbase, Except.bind, Except.toOption] at h
        | ok base =>
          cases hjoin : base.join link with
          | error error => simp [hbase, hjoin, Except.bind, Except.map, Except.toOption] at h
          | ok address =>
            simp only [hbase, hjoin, Except.bind, Except.map, Except.toOption] at h
            obtain rfl := Option.some.inj h
            exact .relative hread hbase hjoin
      · rw [resolve_of_error hread herror] at h
        exact absurd h.symm (Option.some_ne_none url)
  · intro h
    cases h with
    | absolute hread => rw [resolve_of_absolute hread, Except.toOption]
    | relative hread hbase hjoin =>
      rw [resolve_of_relative hread, hbase, Except.bind, hjoin, Except.map, Except.toOption]

theorem toOption_resolve_eq_none_iff :
    (source.resolve link).toOption = none ↔ source.LeadsNowhere link := by
  rw [← not_exists_leadsTo_iff, Option.eq_none_iff_forall_ne_some]
  simp only [ne_eq, toOption_resolve_eq_some_iff, not_exists]

/-! ### Pages -/

/-- What a page at a link shows is read off the fetcher's one answer, if the link leads anywhere. -/
theorem fromPage_eq [LawfulMonad m] {α : Type} (fetch : Fetch m) (otherwise : α)
    (read : WebPage → α) :
    source.fromPage fetch link otherwise read =
      match (source.resolve link).toOption with
      | none => pure otherwise
      | some url => (fun answer ↦
          (answer.toOption.map fun body ↦ read (.ofText body source.baseUrl)).getD otherwise) <$>
            fetch url := by
  cases hresolve : source.resolve link with
  | error error => simp [fromPage, page, hresolve, Except.toOption]
  | ok url =>
    simp only [fromPage, page, hresolve, bind_pure_comp, Functor.map_map]
    refine congrArg (· <$> fetch url) (funext fun answer ↦ ?_)
    cases answer <;> rfl

end Source

/-! ### Operations -/

inductive Operation
  | search (filters : List Filter) (number : ℕ)
  | list (listing : Option Listing) (number : ℕ)
  | details (work : Work)
  | chapters (work : Work)
  | pages (chapter : Chapter)

namespace Operation

/-- What a source answers. -/
abbrev Answer : Operation → Type
  | search _ _ | list _ _ => WorkPage
  | details _ => Work
  | chapters _ => List Chapter
  | pages _ => List Page

/-- The answer that needs no page: nothing, or the work as it is. -/
def fallback : (op : Operation) → op.Answer
  | search _ _ => ⟨[], false⟩
  | list _ _ => ⟨[], false⟩
  | details work => work
  | chapters _ => []
  | pages _ => []

def perform (source : Source) (fetch : Fetch m) : (op : Operation) → m op.Answer
  | search filters number => source.search fetch filters number
  | list listing number => source.list fetch listing number
  | details work => source.details fetch work
  | chapters work => source.chapters fetch work
  | pages chapter => source.pages fetch chapter

/-- The recipe of the source has not what the operation needs: a search, one of the selectors of
details, the selector of chapters, or the selector of a chapter's text. -/
def Lacks (source : Source) : Operation → Prop
  | search _ _ | list _ _ => source.recipe.search = none
  | details _ => ∀ recipe, source.recipe.details = some recipe →
      recipe.author = none ∧ recipe.description = none ∧ recipe.genres = none ∧
        recipe.status = none ∧ recipe.cover = none
  | chapters _ => ∀ recipe, source.recipe.details = some recipe → recipe.chapters = none
  | pages _ => source.recipe.content = none

/-- The link that the operation follows if the recipe has what it needs: the filled template of the
search, or the key of the work or the chapter. -/
def link? (source : Source) : Operation → Option String
  | search filters number => source.recipe.search.map fun recipe ↦
      searchUrl recipe.urlTemplate source.baseUrl (Filter.query filters) number
  | list _ number => source.recipe.search.map fun recipe ↦
      searchUrl recipe.urlTemplate source.baseUrl "" number
  | details work => source.detailsRecipe?.map fun _ ↦ work.key
  | chapters work => (source.recipe.details.bind DetailsRecipe.chapters).map fun _ ↦ work.key
  | pages chapter => source.recipe.content.map fun _ ↦ chapter.key

/-- The address that the operation asks for. -/
def request? (source : Source) (op : Operation) : Option String :=
  (op.link? source).bind fun link ↦ (source.resolve link).toOption

/-- What the operation answers to a page. -/
def shown (source : Source) : (op : Operation) → WebPage → op.Answer
  | search _ _ | list _ _ => fun page ↦
    let works := (source.recipe.search.map (·.works page)).getD []
    ⟨works, !works.isEmpty⟩
  | details work => fun page ↦ (source.detailsRecipe?.map (·.enrich page work)).getD work
  | chapters _ => fun page ↦ (source.recipe.details.bind fun recipe ↦
      recipe.chapters.map (recipe.chapterList page)).getD []
  | pages _ => fun page ↦ (source.recipe.content.map (·.pages page)).getD []

variable {source : Source}

theorem link?_eq_none_iff {op : Operation} : op.link? source = none ↔ op.Lacks source := by
  cases op with
  | search filters number => simp [link?, Lacks]
  | list listing number => simp [link?, Lacks]
  | details work =>
    simp [link?, Lacks, Source.detailsRecipe?, DetailsRecipe.hasDetails, and_assoc]
  | chapters work => simp [link?, Lacks]
  | pages chapter => simp [link?, Lacks]

/-- There is no request if the recipe lacks something or the link leads nowhere. -/
theorem request?_eq_none_iff {op : Operation} : op.request? source = none ↔
    op.Lacks source ∨ ∃ link, op.link? source = some link ∧ source.LeadsNowhere link := by
  rw [request?, Option.bind_eq_none_iff, ← link?_eq_none_iff]
  cases op.link? source with
  | none => simp
  | some link => simp [Source.toOption_resolve_eq_none_iff]

/-- The request is what the link of the operation leads to. -/
theorem request?_eq_some_iff {op : Operation} {url : String} : op.request? source = some url ↔
    ∃ link, op.link? source = some link ∧ source.LeadsTo link url := by
  simp [request?, Option.bind_eq_some_iff, Source.toOption_resolve_eq_some_iff]

/-- An operation reads the page at its link, if it has one. -/
theorem perform_eq_fromPage (fetch : Fetch m) (op : Operation) :
    op.perform source fetch =
      match op.link? source with
      | none => pure op.fallback
      | some link => source.fromPage fetch link op.fallback (op.shown source) := by
  cases op with
  | search filters number =>
    cases h : source.recipe.search <;> simp [perform, link?, shown, Source.search, h] <;> rfl
  | list listing number =>
    cases h : source.recipe.search <;>
      simp [perform, link?, shown, Source.list, Source.search, Filter.query, h] <;> rfl
  | details work =>
    cases h : source.detailsRecipe? <;> simp [perform, link?, shown, Source.details, h] <;> rfl
  | chapters work =>
    cases hdetails : source.recipe.details with
    | none => simp [perform, link?, Source.chapters, hdetails]; rfl
    | some recipe =>
      cases h : recipe.chapters <;>
        simp [perform, link?, shown, Source.chapters, hdetails, h] <;> rfl
  | pages chapter =>
    cases h : source.recipe.content <;> simp [perform, link?, shown, Source.pages, h] <;> rfl

variable [LawfulMonad m]

/-- An operation is one call of the fetcher, with the address that it asks for, or none. -/
theorem perform_eq (fetch : Fetch m) (op : Operation) :
    op.perform source fetch =
      match op.request? source with
      | none => pure op.fallback
      | some url => (fun answer ↦ (answer.toOption.map fun body ↦
          op.shown source (.ofText body source.baseUrl)).getD op.fallback) <$> fetch url := by
  rw [perform_eq_fromPage, request?]
  cases op.link? source with
  | none => rfl
  | some link =>
    rw [Option.bind_some]
    exact Source.fromPage_eq fetch op.fallback (op.shown source)

end Operation

/-- No operation fails, and each asks for one page at most: for none exactly when the recipe lacks
what the operation needs or its link leads nowhere, and otherwise for the one that the link leads
to. Without a page, or when it cannot be fetched, the answer is the fallback. Listing is the search
for nothing. -/
theorem Source.perform_recorded (source : Source) :
    (∀ op : Operation,
      (op.request? source = none ↔
        op.Lacks source ∨ ∃ link, op.link? source = some link ∧ source.LeadsNowhere link) ∧
      (∀ url, op.request? source = some url ↔
        ∃ link, op.link? source = some link ∧ source.LeadsTo link url) ∧
      ∀ {m : Type → Type} [Monad m] [LawfulMonad m] (fetch : Fetch m) (log : List String),
        (op.perform source fetch.recorded).run log =
          match op.request? source with
          | none => pure (op.fallback, log)
          | some url => (fun answer ↦
              (match answer with
                | .ok body => op.shown source (.ofText body source.baseUrl)
                | .error _ => op.fallback,
              log ++ [url])) <$> fetch url) ∧
      ∀ {m : Type → Type} [Monad m] (fetch : Fetch m) (listing : Option Listing) (number : ℕ),
        source.list fetch listing number = source.search fetch [] number ∧
          source.list fetch listing number = source.search fetch [⟨""⟩] number := by
  refine ⟨fun op ↦ ⟨Operation.request?_eq_none_iff, fun url ↦ Operation.request?_eq_some_iff,
    fun fetch log ↦ ?_⟩, fun fetch listing number ↦ ⟨rfl, rfl⟩⟩
  rw [Operation.perform_eq]
  cases op.request? source with
  | none => rfl
  | some url =>
    rw [StateT.run_map, Fetch.run_recorded, Functor.map_map]
    congr 1
    funext answer
    cases answer <;> rfl

/-- The page of a work is asked for at its address on the site, and the work stays as it is when
there is no such page. -/
theorem Source.perform_recorded_timed_out :
    let work : Work := ⟨"n", "T", "", "", [], .unknown, ""⟩
    let source : Source := ⟨⟨⟨"A", "1.0.0", "en", "https://a.example/", "", none⟩,
      none, some ⟨some "i", none, none, none, none, none, none, none⟩, none⟩⟩
    let fetch : Fetch Id := fun _ ↦ .error (.network "timed out" true)
    ((Operation.details work).perform source fetch.recorded).run [] =
      (work, ["https://a.example/n"]) := by
  intro work source fetch
  have hrequest : (Operation.details work).request? source = some "https://a.example/n" := by
    decide +kernel
  have hrun := ((source.perform_recorded).1 (.details work)).2.2 fetch []
  rw [hrequest] at hrun
  exact hrun

end PluginRecovery
