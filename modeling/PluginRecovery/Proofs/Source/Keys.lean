import Mathlib
import PluginRecovery.Proofs.Source.Refetching
import PluginRecovery.Proofs.Url.Rereading
import PluginRecovery.Proofs.WebPage.FirstReading

/-!
The keys of works and chapters, from one operation to the next. A key is the text of an address that
a link on a page names, and such a text is an address itself (`Url.Valid.exists_read?_text`):
whatever the site, it leads to itself. So all that an operation on a work or a chapter asks for is
its key (`asked_key`), if the recipe has what the operation needs.
-/

set_option autoImplicit false
set_option relaxedAutoImplicit false

namespace PluginRecovery

open PluginRecovery.Html

/-! ### Links on pages -/

/-- The text is an absolute address. -/
def IsAbsolute (text : String) : Prop :=
  ∃ url, Url.read? text = .ok url

namespace WebPage

variable {page : WebPage}

/-- The page has no base, or one that was read. -/
def HasValidBase (page : WebPage) : Prop :=
  ∀ base ∈ page.base, base.Valid

theorem hasValidBase_ofText (body base : String) : (ofText body base).HasValidBase := by
  intro url hurl
  cases hread : Url.read? base with
  | error error =>
    rw [ofText, hread] at hurl
    exact absurd hurl.symm (Option.some_ne_none url)
  | ok read =>
    rw [ofText, hread] at hurl
    obtain rfl := Option.some.inj hurl
    exact Url.valid_of_read? hread

/-- The address that a link names is one. -/
theorem HasValidBase.isAbsolute_address? (hbase : page.HasValidBase) {link address : String}
    (h : page.address? link = some address) : IsAbsolute address := by
  rw [address?] at h
  split at h
  · next url hread =>
    obtain rfl := Option.some.inj h
    exact (Url.valid_of_read? hread).exists_read?_text
  · obtain ⟨url, hurl, rfl⟩ := Option.map_eq_some_iff.mp h
    obtain ⟨base, hmem, hjoin⟩ := Option.bind_eq_some_iff.mp hurl
    have hok : base.join link = .ok url := by
      cases hjoined : base.join link with
      | error error =>
        rw [hjoined] at hjoin
        exact absurd hjoin.symm (Option.some_ne_none url)
      | ok joined =>
        rw [hjoined] at hjoin
        exact congrArg Except.ok (Option.some.inj hjoin)
    exact ((hbase base hmem).of_join hok).exists_read?_text

/-- An address on a page is absolute: it is joined to the base, or is so itself. -/
theorem HasValidBase.isAbsolute_addressIn? (hbase : page.HasValidBase) {element : Place}
    {label address : String} (h : page.addressIn? element label = some address) :
    IsAbsolute address := by
  obtain ⟨value, -, h⟩ := Option.bind_eq_some_iff.mp h
  dsimp only at h
  split_ifs at h
  exact hbase.isAbsolute_address? h

theorem HasValidBase.isAbsolute_linkOf? (hbase : page.HasValidBase) {element : Place}
    {address : String} (h : page.linkOf? element = some address) : IsAbsolute address :=
  hbase.isAbsolute_addressIn? h

theorem HasValidBase.isAbsolute_imageOf? (hbase : page.HasValidBase) {element : Place}
    {address : String} (h : page.imageOf? element = some address) : IsAbsolute address := by
  rw [imageOf?, Option.orElse_eq_orElse, Option.orElse_eq_or, Option.or_eq_some_iff] at h
  rcases h with h | ⟨-, h⟩
  · exact hbase.isAbsolute_addressIn? h
  · exact hbase.isAbsolute_addressIn? h

/-- The address of the first link that the selectors mean in an item, or else of the item itself. -/
theorem HasValidBase.isAbsolute_link (hbase : page.HasValidBase) {item : Place}
    {selectors address : String}
    (h : (findWithin item selectors page.linkOf? <|> page.linkOf? item) = some address) :
    IsAbsolute address := by
  rw [findWithin_orElse_self, ← firstRead_iff] at h
  exact h.of_forall hbase.isAbsolute_linkOf?

/-- The keys of the works on a page are absolute addresses. -/
theorem HasValidBase.isAbsolute_of_mem_works (hbase : page.HasValidBase) {recipe : SearchRecipe}
    {work : Work} (h : work ∈ recipe.works page) : IsAbsolute work.key := by
  obtain ⟨item, -, h⟩ := List.mem_filterMap.mp h
  obtain ⟨key, hkey, h⟩ := Option.bind_eq_some_iff.mp h
  obtain ⟨title, -, h⟩ := Option.bind_eq_some_iff.mp h
  obtain rfl := Option.some.inj h
  exact hbase.isAbsolute_link hkey

/-- The keys of the chapters on a page are absolute addresses. -/
theorem HasValidBase.isAbsolute_of_mem_chapterList (hbase : page.HasValidBase)
    {recipe : DetailsRecipe} {selectors : String} {chapter : Chapter}
    (h : chapter ∈ recipe.chapterList page selectors) : IsAbsolute chapter.key := by
  obtain ⟨⟨item, index⟩, -, h⟩ := List.mem_filterMap.mp h
  obtain ⟨key, hkey, h⟩ := Option.bind_eq_some_iff.mp h
  obtain rfl := Option.some.inj h
  exact hbase.isAbsolute_link hkey

end WebPage

/-! ### Keys -/

namespace Source

variable {σ : Type} {source : Source} {fetch : Fetch (StateM σ)} {state : σ}

theorem hasValidBase_of_seen {link : String} {page : WebPage}
    (h : source.seen fetch state link = some page) : page.HasValidBase := by
  obtain ⟨url, -, h⟩ := Option.bind_eq_some_iff.mp h
  obtain ⟨body, -, rfl⟩ := Option.map_eq_some_iff.mp h
  exact WebPage.hasValidBase_ofText body source.baseUrl

variable (source fetch state) in
/-- The answer that needs no page, or what a page shows whose base was read. -/
theorem run_fromPage_cases {α : Type} (link : String) (otherwise : α) (read : WebPage → α) :
    ((source.fromPage fetch link otherwise read).run state).1 = otherwise ∨
      ∃ page : WebPage, page.HasValidBase ∧
        ((source.fromPage fetch link otherwise read).run state).1 = read page := by
  rw [run_fromPage]
  cases hpage : source.seen fetch state link with
  | none => exact .inl rfl
  | some page => exact .inr ⟨page, hasValidBase_of_seen hpage, rfl⟩

/-- Whatever a search finds has an absolute address for its key. -/
theorem isAbsolute_of_mem_search {filters : List Filter} {number : ℕ} {work : Work}
    (h : work ∈ ((source.search fetch filters number).run state).1.works) :
    IsAbsolute work.key := by
  rw [search] at h
  split at h
  · exact absurd h List.not_mem_nil
  · dsimp only at h
    rcases run_fromPage_cases source fetch state _ _ _ with hanswer | ⟨page, hbase, hanswer⟩
    · rw [hanswer] at h
      exact absurd h List.not_mem_nil
    · rw [hanswer] at h
      exact hbase.isAbsolute_of_mem_works h

/-- Whatever chapter is listed has an absolute address for its key. -/
theorem isAbsolute_of_mem_chapters {work : Work} {chapter : Chapter}
    (h : chapter ∈ ((source.chapters fetch work).run state).1) : IsAbsolute chapter.key := by
  rw [chapters] at h
  split at h
  · exact absurd h List.not_mem_nil
  · split at h
    · exact absurd h List.not_mem_nil
    · rcases run_fromPage_cases source fetch state _ _ _ with hanswer | ⟨page, hbase, hanswer⟩
      · rw [hanswer] at h
        exact absurd h List.not_mem_nil
      · rw [hanswer] at h
        exact hbase.isAbsolute_of_mem_chapterList h

end Source

/-! ### Requests that follow -/

namespace Operation

/-- The addresses that the operation asks the fetcher for in a state, one after the other. -/
def asked {σ : Type} (op : Operation) (source : Source) (fetch : Fetch (StateM σ)) (state : σ) :
    List String :=
  (((op.perform source fetch.recorded).run []).run state).1.2

variable {σ : Type} {source : Source} {op : Operation}

/-- An operation asks for its one request, if it has one. -/
theorem asked_eq (fetch : Fetch (StateM σ)) (state : σ) :
    op.asked source fetch state = (op.request? source).toList := by
  rw [asked, perform_eq]
  cases op.request? source with
  | none => rfl
  | some url =>
    dsimp only
    rw [StateT.run_map, Fetch.run_recorded]
    rfl

/-- Whatever the fetcher and its state, the operation asks for the page at the key and for nothing
else, unless the recipe lacks what it needs; then it asks for nothing. -/
def AsksFor (source : Source) (op : Operation) (key : String) : Prop :=
  ∀ {σ : Type} (fetch : Fetch (StateM σ)) (state : σ),
    (op.Lacks source → op.asked source fetch state = []) ∧
      (¬ op.Lacks source → op.asked source fetch state = [key])

/-- An operation asks for its link when that is absolute. -/
theorem asksFor_of_isAbsolute {key : String} (hkey : IsAbsolute key)
    (hlink : ∀ link ∈ op.link? source, link = key) : op.AsksFor source key := by
  obtain ⟨url, hread⟩ := hkey
  intro σ fetch state
  rw [asked_eq, request?, ← link?_eq_none_iff]
  cases hop : op.link? source with
  | none => exact ⟨fun _ ↦ rfl, fun hnone ↦ absurd rfl hnone⟩
  | some link =>
    obtain rfl := hlink link hop
    rw [Option.bind_some, Source.resolve_of_absolute hread]
    exact ⟨fun hnone ↦ absurd hnone (Option.some_ne_none _), fun _ ↦ rfl⟩

variable {work : Work} {chapter : Chapter}

theorem asksFor_details (h : IsAbsolute work.key) : (details work).AsksFor source work.key := by
  refine asksFor_of_isAbsolute h fun link hlink ↦ ?_
  obtain ⟨recipe, -, rfl⟩ := Option.map_eq_some_iff.mp hlink
  rfl

theorem asksFor_chapters (h : IsAbsolute work.key) : (chapters work).AsksFor source work.key := by
  refine asksFor_of_isAbsolute h fun link hlink ↦ ?_
  obtain ⟨selectors, -, rfl⟩ := Option.map_eq_some_iff.mp hlink
  rfl

theorem asksFor_pages (h : IsAbsolute chapter.key) :
    (pages chapter).AsksFor source chapter.key := by
  refine asksFor_of_isAbsolute h fun link hlink ↦ ?_
  obtain ⟨recipe, -, rfl⟩ := Option.map_eq_some_iff.mp hlink
  rfl

end Operation

/-- Keys travel unchanged: whatever the site, and whatever pages were fetched, all that is asked for
to get the details or the chapters of a work that was found or listed is the key of the work, and
all that is asked for to get the pages of a chapter that was found is the key of the chapter, if the
recipe has what it takes. -/
theorem Source.asksFor_key (source : Source) {σ : Type} (fetch : Fetch (StateM σ)) (state : σ) :
    (∀ (filters : List Filter) (number : ℕ),
      ∀ work ∈ ((source.search fetch filters number).run state).1.works,
        (Operation.details work).AsksFor source work.key ∧
          (Operation.chapters work).AsksFor source work.key) ∧
    (∀ (listing : Option Listing) (number : ℕ),
      ∀ work ∈ ((source.list fetch listing number).run state).1.works,
        (Operation.details work).AsksFor source work.key ∧
          (Operation.chapters work).AsksFor source work.key) ∧
    ∀ work, ∀ chapter ∈ ((source.chapters fetch work).run state).1,
      (Operation.pages chapter).AsksFor source chapter.key := by
  refine ⟨fun filters number work hwork ↦ ?_, fun listing number work hwork ↦ ?_,
    fun work chapter hchapter ↦ Operation.asksFor_pages (isAbsolute_of_mem_chapters hchapter)⟩
  · have hkey := isAbsolute_of_mem_search hwork
    exact ⟨Operation.asksFor_details hkey, Operation.asksFor_chapters hkey⟩
  -- a listing is the search for nothing
  · have hkey := isAbsolute_of_mem_search hwork
    exact ⟨Operation.asksFor_details hkey, Operation.asksFor_chapters hkey⟩

/-- A relative link becomes a key that is an address in full, with its name in lower case, without
the port that its scheme stands for and with its letter encoded; that key is asked for as it is. -/
theorem Source.asksFor_key_of_relative_link :
    let source : Source := ⟨⟨⟨"A", "1.0.0", "en", "https://A.example:443/x/", "", none⟩,
      some ⟨"https://a.example/s", ".i", "a", "a", none⟩,
      some ⟨some "b", none, none, none, none, some ".c", none, none⟩, some ⟨"p", ""⟩⟩⟩
    let fetch : Fetch (StateM (List String)) :=
      Fetch.recorded fun _ ↦ .ok "<div class=i><a href=é>T</a></div><a class=c href=../2>U</a>"
    let work : Work := ⟨"https://a.example/x/%C3%A9", "T", "", "", [], .unknown, ""⟩
    let chapter : Chapter := ⟨"https://a.example/2", "U", Decimal.singleOfNat 1⟩
    work ∈ ((source.search fetch [] 1).run []).1.works ∧
      (Operation.details work).asked source fetch [] = [work.key] ∧
      (Operation.chapters work).asked source fetch [] = [work.key] ∧
      (Operation.pages chapter).asked source fetch [] = [chapter.key] := by
  intro source fetch work chapter
  obtain ⟨hsearch, -, hlist⟩ := source.asksFor_key fetch []
  have hwork : work ∈ ((source.search fetch [] 1).run []).1.works := by decide +kernel
  have hchapter : chapter ∈ ((source.chapters fetch work).run []).1 := by decide +kernel
  obtain ⟨hdetails, hchapters⟩ := hsearch [] 1 work hwork
  refine ⟨hwork, (hdetails fetch []).2 ?_, (hchapters fetch []).2 ?_,
    (hlist work chapter hchapter fetch []).2 ?_⟩
  all_goals simp [Operation.Lacks, source]

end PluginRecovery
