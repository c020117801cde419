import Mathlib
import PluginRecovery.Proofs.Analysis.FunctionHead
import PluginRecovery.Proofs.Analysis.ScopeRecipe

/-!
When a script is taken to list works, by its text as a whole. Three names count wherever an opening
brace follows them, however far and whatever stands between (`NamedBeforeBrace`); and `search`
counts with a row of arguments and an opening brace, also as the end of a longer word
(`SearchHeadAfter`). These and no others are the scripts with a search in their recipe
(`search_regex_eq_none_iff`). So there is one in scripts that call none of the three names and
define no function named `search` (`search_regex_of_longer_word`).
-/

set_option autoImplicit false
set_option relaxedAutoImplicit false

namespace PluginRecovery.WholeText

open PluginRecovery.Text PluginRecovery.Pattern

variable {part source : List Char}

/-! ### A name before a brace -/

/-- The names that count wherever a brace follows them. -/
def listingNames : List String :=
  ["searchNovels", "popularNovels", "getMangaList"]

/-- The name stands before an opening brace, at any distance. -/
def NamedBeforeBrace (name : String) (source : List Char) : Prop :=
  ∃ front middle back, source = front ++ name.toList ++ middle ++ '{' :: back

/-- The sign of a name occurs exactly where the name has a brace somewhere behind it. -/
theorem occursIn_openedLater_iff (name : String) :
    (openedLater name).occursIn source = true ↔ NamedBeforeBrace name source := by
  constructor
  · intro h
    obtain ⟨front, part, back, rfl, hpart⟩ := exists_accepts_of_occursIn h
    obtain ⟨opened, brace, rfl, hopened, hbrace⟩ := hpart.of_append
    obtain ⟨label, middle, rfl, hlabel, -⟩ := hopened.of_append
    obtain rfl := hlabel.of_literal
    obtain rfl := hbrace.of_literal
    exact ⟨front, middle, back, by simp⟩
  · rintro ⟨front, middle, back, rfl⟩
    -- the pattern reads up to the first brace behind the name, which may stand before the given one
    obtain ⟨near, far, hfirst, hnear⟩ := List.eq_append_cons_of_mem
      (List.mem_append_right middle (List.mem_cons_self (a := '{') (l := back)))
    have hread : (openedLater name).CanRead (name.toList ++ near ++ ['{']) :=
      ((canRead_literal name).append (canRead_anyNumber fun c hc ↦ by
        simpa using ne_of_mem_of_not_mem hc hnear)).append (canRead_literal "\x7b")
    rw [List.append_assoc, hfirst]
    simpa using hread.occursIn front far

/-! ### The head of a search function -/

/-- Behind `front` stands `search` with a row of arguments in parentheses and an opening brace. -/
def SearchHeadAfter (front source : List Char) : Prop :=
  ∃ gap args gap' back,
    source = front ++ "search".toList ++ gap ++ '(' :: args ++ ')' :: gap' ++ '{' :: back ∧
      blank gap = true ∧ ')' ∉ args ∧ blank gap' = true

/-- A function that is called `search`, whether or not it is asynchronous. -/
def searchSign : Pattern :=
  maybeAsync ++ "search" ++ gap ++ arguments ++ gap ++ "\x7b"

/-- The sign of `search` occurs exactly where the word has arguments and a brace behind it, whatever
comes before the word. -/
theorem occursIn_searchSign_iff :
    searchSign.occursIn source = true ↔ ∃ front, SearchHeadAfter front source := by
  constructor
  · intro h
    obtain ⟨front, part, back, rfl, hpart⟩ := exists_accepts_of_occursIn h
    obtain ⟨part, brace, rfl, hpart, hbrace⟩ := hpart.of_append
    obtain ⟨part, second, rfl, hpart, hsecond⟩ := hpart.of_append
    obtain ⟨part, row, rfl, hpart, hrow⟩ := hpart.of_append
    obtain ⟨part, first, rfl, hpart, hfirst⟩ := hpart.of_append
    obtain ⟨lead, label, rfl, -, hlabel⟩ := hpart.of_append
    obtain ⟨args, rfl, hargs⟩ := exists_row_of_accepts_arguments hrow
    obtain rfl := hbrace.of_literal
    obtain rfl := hlabel.of_literal
    exact ⟨front ++ lead, first, args, second, back, by simp, blank_of_accepts_gap hfirst, hargs,
      blank_of_accepts_gap hsecond⟩
  · rintro ⟨front, first, args, second, back, rfl, hfirst, hargs, hsecond⟩
    have hread : searchSign.CanRead
        ([] ++ "search".toList ++ first ++ ('(' :: args ++ [')']) ++ second ++ ['{']) :=
      ((((((canRead_optional_nil _).append (canRead_literal "search")).append
        (canRead_gap hfirst)).append (canRead_arguments hargs)).append
          (canRead_gap hsecond)).append (canRead_literal "\x7b"))
    simpa using hread.occursIn front back

/-! ### Searches in recipes -/

/-- The signs of a listing function, without the patterns that look for them. -/
theorem any_listingSigns_iff : (listingSigns.any fun sign ↦ sign.occursIn source) = true ↔
    (∃ name ∈ listingNames, NamedBeforeBrace name source) ∨
      ∃ front, SearchHeadAfter front source := by
  have hsigns : listingSigns = listingNames.map openedLater ++ [searchSign] := rfl
  simp only [hsigns, List.any_append, List.any_map, List.any_cons, List.any_nil, Bool.or_false,
    Bool.or_eq_true, List.any_eq_true, Function.comp_apply, occursIn_openedLater_iff,
    occursIn_searchSign_iff]

/-- The whole text is searched if one of the signs occurs in it. -/
theorem value_searchText : (searchText source).value =
    if listingSigns.any fun sign ↦ sign.occursIn source then some source else none := by
  rw [searchText]
  split_ifs <;> rfl

/-- A script is taken for one that lists no works exactly if none of the three names stands anywhere
before an opening brace, and nowhere stands `search` with arguments and an opening brace, be it as
the end of a longer word. -/
theorem search_regex_eq_none_iff (source : List Char) :
    (Strategy.regex.analyze source).value.search = none ↔
      (∀ name ∈ listingNames, ¬ NamedBeforeBrace name source) ∧
        ∀ front, ¬ SearchHeadAfter front source := by
  have hsearch : (Strategy.regex.analyze source).value.search = none ↔
      (searchText source).value = none := by
    rw [Strategy.value_analyze, Scope.value_recipe, Analysis.value_searchRecipe,
      Option.map_eq_none_iff]
    rfl
  rw [hsearch, value_searchText, ite_eq_right_iff, any_listingSigns_iff]
  simp

/-! ### Scripts without such a function -/

/-- The last character of the text continues in a word. -/
def EndsInWord (front : List Char) : Prop :=
  (front.getLast?.any fun c ↦ isWord c || c == '$') = true

instance (front : List Char) : Decidable (EndsInWord front) :=
  inferInstanceAs (Decidable (_ = true))

/-- None of the three names is followed by a parenthesis, and what is written as `search` with
arguments and an opening brace is the end of a longer word. -/
structure DefinesNoListing (source : List Char) : Prop where
  names : ∀ name ∈ listingNames, ¬ (name ++ "(").toList <:+: source
  search : ∀ front, SearchHeadAfter front source → EndsInWord front

/-- Where the head of a search function stands, the script begins with what is before it and the
name. -/
theorem definesNoListing_of_inits
    (hnames : ∀ name ∈ listingNames, ¬ (name ++ "(").toList <:+: source)
    (hinits : ∀ front ∈ source.inits, front ++ "search".toList <+: source → EndsInWord front) :
    DefinesNoListing source := by
  refine ⟨hnames, ?_⟩
  rintro front ⟨first, args, second, back, hsource, -⟩
  have hbegins : front ++ "search".toList <+: source := by
    rw [hsource, List.append_assoc, List.append_assoc, List.append_assoc]
    exact List.prefix_append _ _
  exact hinits front ((List.mem_inits _ _).mpr ((List.prefix_append _ _).trans hbegins)) hbegins

/-- A function whose name only ends with `search` makes a script one that lists works, and so does a
variable with one of the three names before the brace of another statement. -/
theorem search_regex_of_longer_word :
    let longer := "research(q) \x7b\x7d".toList
    let mention := "let popularNovels; if (a) \x7b\x7d".toList
    (DefinesNoListing longer ∧ (Strategy.regex.analyze longer).value.search ≠ none) ∧
      DefinesNoListing mention ∧ (Strategy.regex.analyze mention).value.search ≠ none := by
  refine ⟨⟨definesNoListing_of_inits (by decide) (by decide), by decide +kernel⟩,
    definesNoListing_of_inits (by decide) (by decide), by decide +kernel⟩

end PluginRecovery.WholeText
