import Mathlib
import PluginRecovery.Proofs.Pattern.Captures
import PluginRecovery.Proofs.Script.DeclarationPrecedence
import PluginRecovery.Proofs.Text.Separation

/-!
The parameters of a function are those that its row in parentheses lists (`Lists`). `paramsOf` does
not look for the row: it takes the last group that holds a comma or is blank. The row is the last
group of every form (`keeps_of_mem_declarationForms`), and no other group holds a comma
(`comma_not_mem_groupText`). So the row is taken whenever it lists anything, and in its place only a
blank text can be taken, which has no parameters (`lists_paramsOf`). `HoldsRow` says where the row
stands in the code, apart from the name and from the mark of an asynchronous function, and
`paramsOf_eq_iff_lists` that it alone tells the parameters.
-/

set_option autoImplicit false
set_option relaxedAutoImplicit false

namespace PluginRecovery.Script

open PluginRecovery.Text PluginRecovery.Pattern

variable {code : List Char} {form : DeclarationForm} {found : Match} {row : List Char}
  {params : List String}

/-! ### Listed parameters -/

/-- The parameters that a row lists: the parts between its commas, trimmed, but for blank ones. A
row without a comma lists none. -/
inductive Lists : List Char → List String → Prop
  | parts {row : List Char} {parts : List (List Char)} (hcomma : ',' ∈ row)
    (hrow : [','].intercalate parts = row) (hparts : ∀ part ∈ parts, ',' ∉ part) :
    Lists row (((parts.filter (!blank ·)).map trim).map String.ofList)
  | lone {row : List Char} (hcomma : ',' ∉ row) : Lists row []

/-- The parts of a row are the texts without commas that make it up with commas between them. -/
theorem splitOnComma_eq_iff {parts : List (List Char)} (hcomma : ',' ∈ row) :
    splitOnComma row = parts ↔ [','].intercalate parts = row ∧ ∀ part ∈ parts, ',' ∉ part := by
  have hsplit : splitOnComma row = row.splitOn ',' := rfl
  rw [hsplit]
  constructor
  · rintro rfl
    refine ⟨List.intercalate_splitOn ',', fun part hpart hmem ↦ ?_⟩
    exact absurd (eq_false_of_mem_splitOnP hpart ',' hmem) (by simp)
  · rintro ⟨rfl, hparts⟩
    refine List.splitOn_intercalate ',' hparts ?_
    rintro rfl
    exact absurd hcomma List.not_mem_nil

/-- A row lists its parameters in one way only. -/
theorem Lists.unique {others : List String} (h : Lists row params) (hothers : Lists row others) :
    params = others := by
  cases h with
  | parts hcomma hrow hparts =>
    cases hothers with
    | parts _ hrow' hparts' =>
      have hsplit := (splitOnComma_eq_iff hcomma).mpr ⟨hrow, hparts⟩
      have hsplit' := (splitOnComma_eq_iff hcomma).mpr ⟨hrow', hparts'⟩
      rw [← hsplit, ← hsplit']
    | lone hlone => exact absurd hcomma hlone
  | lone hlone =>
    cases hothers with
    | parts hcomma => exact absurd hcomma hlone
    | lone => rfl

/-- A parameter is a piece of the row without commas, trimmed and not empty. -/
theorem Lists.of_mem (h : Lists row params) {param : String} (hparam : param ∈ params) :
    param ≠ "" ∧ Trimmed param.toList ∧ ',' ∉ param.toList ∧ param.toList <:+: row := by
  cases h with
  | lone => exact absurd hparam List.not_mem_nil
  | @parts parts hcomma hrow hparts =>
    obtain ⟨_, htrimmed, rfl⟩ := List.mem_map.mp hparam
    obtain ⟨part, hfilter, rfl⟩ := List.mem_map.mp htrimmed
    obtain ⟨hpart, hblank⟩ := List.mem_filter.mp hfilter
    rw [String.toList_ofList]
    refine ⟨fun hempty ↦ ?_, trimmed_trim part, fun hmem ↦ ?_, ?_⟩
    · rw [String.ofList_eq_empty_iff, trim_eq_nil_iff] at hempty
      simp [hempty] at hblank
    · exact hparts part hpart ((isInfix_trim part).subset hmem)
    · rw [← hrow]
      exact (isInfix_trim part).trans (isInfix_intercalate_of_mem ',' hpart)

/-! ### The group that is taken -/

/-- A group that is taken gives the parameters that it lists. -/
theorem lists_of_taken (h : (row.contains ',' || blank row) = true) :
    Lists row ((((splitOnComma row).map trim).filter (!·.isEmpty)).map String.ofList) := by
  have hfilter : ((splitOnComma row).map trim).filter (!·.isEmpty) =
      ((splitOnComma row).filter (!blank ·)).map trim := by
    rw [List.filter_map]
    congr 2
    funext part
    rw [Function.comp_apply, Bool.eq_iff_iff]
    simp [trim_eq_nil_iff]
  rw [hfilter]
  by_cases hcomma : ',' ∈ row
  · obtain ⟨hrow, hparts⟩ := (splitOnComma_eq_iff hcomma).mp rfl
    exact .parts hcomma hrow hparts
  · have hblank : blank row = true := by simpa [hcomma] using h
    have hsplit : splitOnComma row = [row] :=
      List.splitOnP_eq_singleton fun c hc ↦ by simpa using ne_of_mem_of_not_mem hc hcomma
    rw [hsplit, List.filter_cons_of_neg (by simp [hblank])]
    exact .lone hcomma

/-- Groups without a comma have no parameters, as one that is taken is blank. -/
theorem paramsOf_eq_nil {groups : List (List Char)} (h : ∀ text ∈ groups, ',' ∉ text) :
    paramsOf groups = [] := by
  rw [paramsOf]
  cases htaken : (groups.filter fun text ↦ text.contains ',' || blank text).getLast? with
  | none => rfl
  | some text =>
    obtain ⟨hmem, hcounts⟩ := List.mem_filter.mp (List.mem_of_getLast? htaken)
    exact (lists_of_taken hcounts).unique (.lone (h text hmem))

/-- Behind groups without a comma the last group lists the parameters, taken or not. -/
theorem lists_paramsOf {others : List (List Char)} (hothers : ∀ text ∈ others, ',' ∉ text)
    (row : List Char) : Lists row (paramsOf (others ++ [row])) := by
  cases hcounts : row.contains ',' || blank row with
  | true =>
    have htaken : ((others ++ [row]).filter fun text ↦ text.contains ',' || blank text).getLast? =
        some row := by
      simp only [List.filter_append, List.filter_cons, hcounts, if_true, List.filter_nil,
        List.getLast?_concat]
    rw [paramsOf, htaken]
    exact lists_of_taken hcounts
  | false =>
    obtain ⟨hcomma, -⟩ := Bool.or_eq_false_iff.mp hcounts
    have hlone : ',' ∉ row := by simpa using hcomma
    have hall : ∀ text ∈ others ++ [row], ',' ∉ text :=
      List.forall_mem_append.mpr ⟨hothers, List.forall_mem_singleton.mpr hlone⟩
    rw [paramsOf_eq_nil hall]
    exact .lone hlone

/-! ### The groups besides the row -/

theorem comma_not_mem_of_accepts_word {text : List Char} (h : word.Accepts text) : ',' ∉ text :=
  fun hmem ↦ absurd (h.of_many.1 ',' hmem) (by decide)

theorem comma_not_mem_of_accepts_mark {text : List Char}
    (h : (literal "async" ++ blanks).Accepts text) : ',' ∉ text := by
  obtain ⟨front, space, rfl, hfront, hspace⟩ := h.of_append
  obtain rfl := hfront.of_literal
  rw [List.mem_append, not_or]
  exact ⟨by decide, fun hmem ↦ absurd (hspace.of_many.1 ',' hmem) (by decide)⟩

/-- Besides the row no group of a match holds a comma; one that took no part counts as empty. -/
theorem comma_not_mem_groupText (hform : form ∈ declarationForms)
    (hfound : form.pattern.Finds code found) {number : ℕ} (hnumber : number ≠ 3) :
    ',' ∉ found.groupText number := by
  rw [Match.groupText]
  cases hspan : found.group? number with
  | none => exact List.not_mem_nil
  | some span =>
    obtain ⟨body, hbody, haccepts⟩ := hfound.isMatch.exists_accepts_of_lookup hspan
    have hcases : body = literal "async" ++ blanks ∨ body = word := by
      rcases keeps_of_mem_declarationForms hform with hkeeps | hkeeps
      all_goals
        rw [hkeeps] at hbody
        grind
    rcases hcases with rfl | rfl
    · exact comma_not_mem_of_accepts_mark haccepts
    · exact comma_not_mem_of_accepts_word haccepts

/-- The parameters of a match are listed by its third group alone. -/
theorem lists_groupText (hform : form ∈ declarationForms) (hfound : form.pattern.Finds code found) :
    Lists (found.groupText 3) (paramsOf ([1, 2, 3].map found.groupText)) := by
  have hothers : ∀ text ∈ [1, 2].map found.groupText, ',' ∉ text := by
    rw [List.forall_mem_map]
    intro number hnumber
    refine comma_not_mem_groupText hform hfound ?_
    rintro rfl
    exact absurd hnumber (by decide)
  exact lists_paramsOf hothers (found.groupText 3)

/-! ### Where the row stands -/

/-- The row of a match stands in parentheses in the code, behind the name that the match has
captured and behind its mark of an asynchronous function, if it has one. -/
structure HoldsRow (code : List Char) (form : DeclarationForm) (found : Match) (row : Span) :
    Prop where
  group?_eq : found.group? 3 = some row
  inParentheses : ∃ front back, code = front ++ '(' :: row.text ++ ')' :: back ∧
    row.start.offset = size front + 1
  closed : ')' ∉ row.text
  behind_name : ∃ name, found.group? form.nameGroup = some name ∧
    name.stop.offset < row.start.offset
  behind_mark : ∀ mark, found.group? form.asyncGroup = some mark →
    mark.stop.offset < row.start.offset

/-- A parameter list keeps what stands between its parentheses, up to the first closing one. -/
theorem exists_row_of_paramList {start stop : PluginRecovery.Cursor} {before after : Groups}
    (h : paramList.Matches start before stop after) :
    ∃ row : Span, after = (3, row) :: before ∧ start.Reads ['('] row.start ∧
      row.start.Reads row.text row.stop ∧ ')' ∉ row.text ∧ row.stop.Reads [')'] stop := by
  obtain ⟨closing, kept, h, hclose⟩ := h.of_append
  obtain ⟨opening, kept', hopen, hgroup⟩ := h.of_append
  obtain rfl := hclose.groups_eq (keeps_literal _)
  obtain rfl := hopen.groups_eq (keeps_literal _)
  cases hgroup with
  | group _ hbody =>
    obtain rfl := hbody.groups_eq rfl
    obtain ⟨text, htext⟩ := hbody.exists_reads
    refine ⟨⟨opening, closing⟩, rfl, hopen.reads_literal, ?_, fun hmem ↦ ?_, hclose.reads_literal⟩
    · rwa [htext.text_eq]
    · simpa using hbody.accepts.of_many.1 _ hmem

/-- The parameter list is the last part of a form that keeps anything. -/
theorem exists_matches_paramList (hform : form ∈ declarationForms)
    {start stop : PluginRecovery.Cursor} {groups : Groups}
    (h : form.pattern.Matches start [] stop groups) :
    ∃ (front : Pattern) (closing : PluginRecovery.Cursor),
      (front ++ paramList).Matches start [] closing groups := by
  rcases eq_of_mem_declarationForms hform with rfl | rfl | rfl | rfl
  · exact ⟨_, h.of_append_plain rfl⟩
  · exact ⟨_, h.of_append_plain rfl⟩
  · exact ⟨_, h.of_append_plain rfl⟩
  · -- The arrow stands between the parameter list and the open brace.
    obtain ⟨_, h⟩ := h.of_append_plain rfl
    obtain ⟨_, h⟩ := h.of_append_plain (keeps_literal _)
    exact ⟨_, h.of_append_plain rfl⟩

/-- Every match of a form has a row. -/
theorem exists_holdsRow (hform : form ∈ declarationForms) (hfound : form.pattern.Finds code found) :
    ∃ row, HoldsRow code form found row := by
  obtain ⟨front, closing, hmatches⟩ := exists_matches_paramList hform hfound.isMatch
  obtain ⟨opening, kept, hfront, hparams⟩ := hmatches.of_append
  obtain ⟨row, hgroups, hopening, htext, hclosed, hclosing⟩ := exists_row_of_paramList hparams
  obtain ⟨before, hbefore⟩ := hfound.reads
  obtain ⟨head, hhead⟩ := hfront.exists_reads
  obtain ⟨hname, hmark, -⟩ := groups_ne_of_mem_declarationForms hform
  have hbehind {number : ℕ} {span : Span} (hnumber : number ≠ 3)
      (hspan : found.group? number = some span) : span.stop.offset < row.start.offset := by
    rw [Match.group?, hgroups, List.lookup_cons, beq_false_of_ne hnumber] at hspan
    have hkept : (number, span) ∈ kept := Dictionary.mem_of_lookup hspan
    obtain ⟨_, back, -, -, hback⟩ :=
      (hfront.within_of_mem_groups hkept).resolve_left List.not_mem_nil
    calc span.stop.offset ≤ opening.offset := hback.2 ▸ Nat.le_add_right _ _
      _ < row.start.offset := hopening.2 ▸ Nat.lt_add_of_pos_right (by decide)
  refine ⟨row, ?_, ⟨before ++ head, closing.rest, ?_, ?_⟩, hclosed, ?_, fun mark ↦ hbehind hmark⟩
  · rw [Match.group?, hgroups]
    rfl
  · have hreads := (((hbefore.trans hhead).trans hopening).trans htext).trans hclosing
    simpa [Cursor.start] using hreads.1
  · rw [hopening.2, (hbefore.trans hhead).2, Cursor.start, Nat.zero_add]
    rfl
  · obtain ⟨name, hspan⟩ := hfound.isMatch.exists_lookup_of_alwaysKeeps
      (nameGroup_of_mem_declarationForms hform).1
    exact ⟨name, hspan, hbehind hname hspan⟩

/-! ### Parameters of a match -/

/-- The parameters of a declaration are those that the groups of its match give. -/
theorem params_of_declaration? (hform : form ∈ declarationForms)
    (hfound : found ∈ form.pattern.searchAll code) {d : Declaration}
    (h : form.declaration? code found = some d) :
    d.params = paramsOf ([1, 2, 3].map found.groupText) := by
  have hmem : (⟨form, found⟩ : FormMatch) ∈ formMatches code :=
    List.mem_flatMap.mpr ⟨form, hform, List.mem_map_of_mem hfound⟩
  rw [declaration?_eq hmem] at h
  split_ifs at h
  obtain rfl := Option.some.inj h
  rfl

/-- The parameters of a match, and of the function that it declares, are those that its row in
parentheses lists. Each is a part of the row, not empty, trimmed and without a comma. -/
theorem paramsOf_eq_iff_lists (hform : form ∈ declarationForms)
    (hfound : found ∈ form.pattern.searchAll code) :
    ∃ row, HoldsRow code form found row ∧
      (∀ params, paramsOf ([1, 2, 3].map found.groupText) = params ↔ Lists row.text params) ∧
      (∀ param ∈ paramsOf ([1, 2, 3].map found.groupText), param ≠ "" ∧ Trimmed param.toList ∧
        ',' ∉ param.toList ∧ param.toList <:+: row.text) ∧
      ∀ d, form.declaration? code found = some d →
        d.params = paramsOf ([1, 2, 3].map found.groupText) := by
  have hfinds := finds_of_mem_searchAll hfound
  obtain ⟨row, hrow⟩ := exists_holdsRow hform hfinds
  have htext : found.groupText 3 = row.text := by
    rw [Match.groupText, hrow.group?_eq]
    rfl
  have hlists := htext ▸ lists_groupText hform hfinds
  refine ⟨row, hrow, fun params ↦ ⟨?_, hlists.unique⟩, fun param ↦ hlists.of_mem,
    fun d ↦ params_of_declaration? hform hfound⟩
  rintro rfl
  exact hlists

/-- An asynchronous function with blank parts in its row, and an arrow function without the mark,
whose only parameter is lost as its row has no comma. -/
theorem paramsOf_eq_iff_lists_async_and_lone :
    let code := "async function f(a ,, b,)\x7b\x7dg:(c)=>\x7b\x7d".toList
    (functionForm ∈ declarationForms ∧ ∃ found ∈ functionForm.pattern.searchAll code,
      (found.group? 1).isSome ∧ ∃ row, HoldsRow code functionForm found row ∧
        Lists row.text ["a", "b"]) ∧
    arrowPropertyForm ∈ declarationForms ∧ ∃ found ∈ arrowPropertyForm.pattern.searchAll code,
      found.group? 2 = none ∧ found.groupText 3 = ['c'] ∧
        ∃ row, HoldsRow code arrowPropertyForm found row ∧ Lists row.text [] := by
  intro code
  have hfunction : functionForm ∈ declarationForms := List.mem_cons_self
  have harrow : arrowPropertyForm ∈ declarationForms := by simp [declarationForms]
  have hfirst : (functionForm.pattern.searchAll code).map (fun found ↦
      ((found.group? 1).isSome, paramsOf ([1, 2, 3].map found.groupText))) =
      [(true, ["a", "b"])] := by decide +kernel
  have hsecond : (arrowPropertyForm.pattern.searchAll code).map (fun found ↦
      (found.group? 2, found.groupText 3, paramsOf ([1, 2, 3].map found.groupText))) =
      [(none, ['c'], [])] := by decide +kernel
  obtain ⟨found, hfound, hshown⟩ := List.mem_map.mp (hfirst ▸ List.mem_singleton_self _)
  obtain ⟨other, hother, hlone⟩ := List.mem_map.mp (hsecond ▸ List.mem_singleton_self _)
  rw [Prod.mk.injEq] at hshown
  rw [Prod.mk.injEq, Prod.mk.injEq] at hlone
  obtain ⟨row, hrow, hlists, -⟩ := paramsOf_eq_iff_lists hfunction hfound
  obtain ⟨row', hrow', hlists', -⟩ := paramsOf_eq_iff_lists harrow hother
  exact ⟨⟨hfunction, found, hfound, hshown.1, row, hrow, (hlists _).mp hshown.2⟩, harrow, other,
    hother, hlone.1, hlone.2.1, row', hrow', (hlists' _).mp hlone.2.2⟩

end PluginRecovery.Script
