import Mathlib
import PluginRecovery.Proofs.Dictionary
import PluginRecovery.Proofs.Pattern.Captures
import PluginRecovery.Proofs.Pattern.Leftmost
import PluginRecovery.Proofs.Script.BraceMatching
import PluginRecovery.Script.ClassProperties

/-!
Where the properties of a class are defined. The pattern that delimits the body of the first class
finds the open brace of that class, but does not look for the brace that closes it: the body goes up
to the first closing brace behind its first character (`FirstClass.exists_body`). The brace that
closes the class is such a brace, unless it stands right behind the open one. So all properties are
defined in the class when its body is not empty, and behind the class when it is
(`classProperties_definedIn`): an empty class gets the properties of the next one
(`classProperties_definedIn_empty`).
-/

set_option autoImplicit false
set_option relaxedAutoImplicit false

namespace PluginRecovery.Script

open PluginRecovery.Text PluginRecovery.Pattern

/-! ### Classes and properties in a text -/

/-- A word that is not empty. -/
def IsName (text : List Char) : Prop :=
  text ≠ [] ∧ ∀ c ∈ text, isWord c = true

/-- White space that is not empty. -/
def IsSpace (text : List Char) : Prop :=
  text ≠ [] ∧ blank text = true

/-- What stands before the body of a class, from the keyword up to the open brace. -/
def IsClassHead (head : List Char) : Prop :=
  ∃ space name more, head = "class".toList ++ space ++ name ++ more ∧ IsSpace space ∧
    IsName name ∧ '{' ∉ more

/-- The first head of a class in the code stands behind `front`, and `rest` behind the open brace
after it. -/
structure FirstClass (code front head rest : List Char) : Prop where
  code_eq : code = front ++ head ++ '{' :: rest
  isClassHead : IsClassHead head
  first : ∀ front' head' rest', code = front' ++ head' ++ '{' :: rest' → IsClassHead head' →
    front.length ≤ front'.length

/-- The first class in the code opens its body with the brace at the offset. -/
def OpensClass (code : List Char) (offset : ℕ) : Prop :=
  ∃ front head rest, FirstClass code front head rest ∧ offset = size (front ++ head)

/-- What an assignment gives or a getter returns: something without a semicolon. -/
def IsValueText (text : List Char) : Prop :=
  text ≠ [] ∧ ';' ∉ text

/-- The text gives a property of the name the value: it is an assignment to `this`, or a getter up
to the end of the value that it returns. -/
inductive Defines (name value : List Char) : List Char → Prop
  | assignment {behindName beforeValue : List Char} (hname : IsName name)
    (hvalue : IsValueText value) (hbehind : blank behindName = true)
    (hbefore : blank beforeValue = true) :
    Defines name value ("this.".toList ++ name ++ behindName ++ "=".toList ++ beforeValue ++
      value ++ ";".toList)
  | getter {beforeName behindName within beforeBlock inBlock beforeValue : List Char}
    (hname : IsName name) (hvalue : IsValueText value) (hspace : IsSpace beforeName)
    (hbehind : blank behindName = true) (hwithin : blank within = true)
    (hblock : blank beforeBlock = true) (hinner : blank inBlock = true)
    (hbefore : IsSpace beforeValue) :
    Defines name value ("get".toList ++ beforeName ++ name ++ behindName ++ "(".toList ++ within ++
      ")".toList ++ beforeBlock ++ "\x7b".toList ++ inBlock ++ "return".toList ++ beforeValue ++
      value ++ ";".toList)

/-- A part of the text defines the property that the entry is of. -/
def DefinedIn (entry : String × Value) (text : List Char) : Prop :=
  ∃ front part back name value, text = front ++ part ++ back ∧ Defines name value part ∧
    entry = (String.ofList name, readValue value)

theorem DefinedIn.of_isInfix {entry : String × Value} {text whole : List Char}
    (h : DefinedIn entry text) (hpart : text <:+: whole) : DefinedIn entry whole := by
  obtain ⟨front, part, back, name, value, rfl, hdefines, rfl⟩ := h
  obtain ⟨before, after, rfl⟩ := hpart
  exact ⟨before ++ front, part, back ++ after, name, value, by simp, hdefines, rfl⟩

/-- A definition does not begin with a brace that would end the body. -/
theorem Defines.exists_cons {name value part : List Char} (h : Defines name value part) :
    ∃ c rest, part = c :: rest ∧ c ≠ '}' := by
  cases h <;> exact ⟨_, _, rfl, by decide⟩

/-- No property begins with a closing brace. -/
theorem DefinedIn.of_brace_cons {entry : String × Value} {text : List Char}
    (h : DefinedIn entry ('}' :: text)) : DefinedIn entry text := by
  obtain ⟨front, part, back, name, value, htext, hdefines, rfl⟩ := h
  obtain ⟨c, rest, rfl, hc⟩ := hdefines.exists_cons
  cases front with
  | nil => exact absurd (List.cons.inj htext).1.symm hc
  | cons brace front => exact ⟨front, _, back, name, value, (List.cons.inj htext).2, hdefines, rfl⟩

/-! ### Properties in a body -/

theorem isName_of_accepts {text : List Char} (h : word.Accepts text) : IsName text :=
  ⟨List.length_pos_iff.mp h.of_many.2.1, h.of_many.1⟩

theorem isSpace_of_accepts {text : List Char} (h : blanks.Accepts text) : IsSpace text :=
  ⟨List.length_pos_iff.mp h.of_many.2.1, List.all_eq_true.mpr h.of_many.1⟩

theorem isValueText_of_accepts {text : List Char} (h : (oneOrMore (· != ';')).Accepts text) :
    IsValueText text :=
  ⟨List.length_pos_iff.mp h.of_many.2.1, fun hmem ↦ by simpa using h.of_many.1 ';' hmem⟩

/-- The pattern finds texts that define a property, and captures the property's name and value. -/
def FindsProperties (p : Pattern) : Prop :=
  ∀ text kept, p.Captures text kept →
    ∃ name value, Defines name value text ∧ kept = [(2, value), (1, name)]

/-- An assignment to `this` defines a property. -/
theorem findsProperties_thisAssignment : FindsProperties thisAssignment := by
  intro text kept h
  -- The pattern is taken apart from its end, as it is built from its beginning.
  obtain ⟨_, rfl, h₁⟩ := h.of_append_literal
  obtain ⟨_, value, _, rfl, rfl, h₂, hvalue⟩ := h₁.of_append_group rfl
  obtain ⟨_, beforeValue, rfl, h₃, hbefore⟩ := h₂.of_append_plain rfl
  obtain ⟨_, rfl, h₄⟩ := h₃.of_append_literal
  obtain ⟨_, behindName, rfl, h₅, hbehind⟩ := h₄.of_append_plain rfl
  obtain ⟨_, name, _, rfl, rfl, h₆, hname⟩ := h₅.of_append_group rfl
  obtain ⟨rfl, hthis⟩ := h₆.of_keeps_nil (keeps_literal _)
  obtain rfl := hthis.of_literal
  exact ⟨name, value, .assignment (isName_of_accepts hname) (isValueText_of_accepts hvalue)
    (blank_of_accepts_gap hbehind) (blank_of_accepts_gap hbefore), rfl⟩

/-- A getter that returns a value defines a property. -/
theorem findsProperties_getterReturn : FindsProperties getterReturn := by
  intro text kept h
  obtain ⟨_, rfl, h₁⟩ := h.of_append_literal
  obtain ⟨_, value, _, rfl, rfl, h₂, hvalue⟩ := h₁.of_append_group rfl
  obtain ⟨_, beforeValue, rfl, h₃, hbefore⟩ := h₂.of_append_plain rfl
  obtain ⟨_, rfl, h₄⟩ := h₃.of_append_literal
  obtain ⟨_, inBlock, rfl, h₅, hinner⟩ := h₄.of_append_plain rfl
  obtain ⟨_, rfl, h₆⟩ := h₅.of_append_literal
  obtain ⟨_, beforeBlock, rfl, h₇, hblock⟩ := h₆.of_append_plain rfl
  obtain ⟨_, rfl, h₈⟩ := h₇.of_append_literal
  obtain ⟨_, within, rfl, h₉, hwithin⟩ := h₈.of_append_plain rfl
  obtain ⟨_, rfl, h₁₀⟩ := h₉.of_append_literal
  obtain ⟨_, behindName, rfl, h₁₁, hbehind⟩ := h₁₀.of_append_plain rfl
  obtain ⟨_, name, _, rfl, rfl, h₁₂, hname⟩ := h₁₁.of_append_group rfl
  obtain ⟨_, beforeName, rfl, h₁₃, hspace⟩ := h₁₂.of_append_plain rfl
  obtain ⟨rfl, hget⟩ := h₁₃.of_keeps_nil (keeps_literal _)
  obtain rfl := hget.of_literal
  exact ⟨name, value, .getter (isName_of_accepts hname) (isValueText_of_accepts hvalue)
    (isSpace_of_accepts hspace) (blank_of_accepts_gap hbehind) (blank_of_accepts_gap hwithin)
    (blank_of_accepts_gap hblock) (blank_of_accepts_gap hinner) (isSpace_of_accepts hbefore), rfl⟩

/-- Each entry is defined in the body that the pattern searches. -/
theorem FindsProperties.definedIn {p : Pattern} (hp : FindsProperties p) {body : List Char}
    {entry : String × List Char} (h : entry ∈ assignments p body) :
    DefinedIn (entry.1, readValue entry.2) body := by
  obtain ⟨found, hfound, rfl⟩ := List.mem_map.mp h
  obtain ⟨front, part, back, kept, rfl, hcaptures, hgroups⟩ :=
    (finds_of_mem_searchAll hfound).exists_captures
  obtain ⟨name, value, hdefines, rfl⟩ := hp part kept hcaptures
  refine ⟨front, part, back, name, value, rfl, hdefines, ?_⟩
  rw [hgroups 1, hgroups 2]
  rfl

/-- The properties are defined in the text that is searched for them. -/
theorem definedIn_of_mem_classProperties {code : List Char} {entry : String × Value}
    (h : entry ∈ classProperties code) :
    ∃ found, classBlock.search? code = some found ∧ DefinedIn entry (found.groupText 2) := by
  obtain ⟨assigned, hmem, rfl⟩ := List.mem_map.mp (Dictionary.mem_of_mem_ofEntries h)
  rw [classAssignments] at hmem
  cases hfound : classBlock.search? code with
  | none => simp [hfound] at hmem
  | some found =>
    simp only [hfound] at hmem
    refine ⟨found, rfl, ?_⟩
    rcases List.mem_append.mp hmem with hassigned | hreturned
    · exact findsProperties_thisAssignment.definedIn hassigned
    · exact findsProperties_getterReturn.definedIn hreturned

/-! ### Texts around a sign -/

/-- Of two cuts of a text at the same sign, the one at its first place has the shorter front. -/
theorem prefix_and_suffix_of_notMem {sign : Char} {front back front' back' : List Char}
    (h : front ++ sign :: back = front' ++ sign :: back') (hsign : sign ∉ front) :
    front <+: front' ∧ back' <:+ back := by
  rcases List.append_eq_append_iff.mp h with ⟨middle, rfl, hmiddle⟩ | ⟨middle, rfl, hmiddle⟩
  · refine ⟨List.prefix_append front middle, ?_⟩
    cases middle with
    | nil => exact (List.cons.inj hmiddle).2 ▸ List.suffix_refl back
    | cons c middle =>
      rw [(List.cons.inj hmiddle).2]
      exact (List.suffix_cons sign back').trans (List.suffix_append middle _)
  · cases middle with
    | nil =>
      rw [List.append_nil]
      exact ⟨List.prefix_refl front', (List.cons.inj hmiddle).2 ▸ List.suffix_refl back'⟩
    | cons c middle =>
      obtain rfl := (List.cons.inj hmiddle).1
      exact absurd (List.mem_append_right front' List.mem_cons_self) hsign

theorem IsClassHead.notMem {head : List Char} (h : IsClassHead head) : '{' ∉ head := by
  obtain ⟨space, name, more, rfl, hspace, hname, hmore⟩ := h
  have hkeyword : '{' ∉ "class".toList := by decide
  have hblank : '{' ∉ space := fun hmem ↦
    absurd (List.all_eq_true.mp hspace.2 _ hmem) (by decide)
  have hword : '{' ∉ name := fun hmem ↦ absurd (hname.2 _ hmem) (by decide)
  simp only [List.mem_append, not_or]
  exact ⟨⟨⟨hkeyword, hblank⟩, hword⟩, hmore⟩

/-! ### The body that is searched -/

/-- The body as `classBlock` delimits it, from the open brace to the closing one. -/
def bodyBlock : Pattern :=
  "\x7b" ++ group 2 (many (fun _ ↦ true) 1 none false) ++ "\x7d"

/-- The pattern of a class reads the head up to a brace, and then the shortest body that is not
empty. -/
theorem run_classBlock {α : Type} (at_ : PluginRecovery.Cursor) (groups : Groups)
    (next : PluginRecovery.Cursor → Groups → Option α) :
    classBlock.run at_ groups next =
      ("class" ++ blanks ++ group 1 word).run at_ groups fun named groups ↦
        (many (fun _ ↦ true) 0 none false).run named groups fun opened groups ↦
          bodyBlock.run opened groups next :=
  rfl

theorem canRead_body {body : List Char} (h : body ≠ []) :
    (group 2 (many (fun _ ↦ true) 1 none false)).CanRead body :=
  (canRead_many false (fun _ _ ↦ rfl) (List.length_pos_iff.mpr h) (by simp)).group 2

theorem canRead_bodyBlock {body : List Char} (h : body ≠ []) :
    bodyBlock.CanRead ('{' :: body ++ ['}']) :=
  ((canRead_literal "\x7b").append (canRead_body h)).append (canRead_literal "\x7d")

/-- A class whose body is not empty is read with any closing brace behind that. -/
theorem canRead_classBlock {head body : List Char} (hhead : IsClassHead head) (h : body ≠ []) :
    classBlock.CanRead (head ++ '{' :: body ++ ['}']) := by
  obtain ⟨space, name, more, rfl, hspace, hname, -⟩ := hhead
  have hblanks : blanks.CanRead space :=
    canRead_many true (List.all_eq_true.mp hspace.2) (List.length_pos_iff.mpr hspace.1) (by simp)
  have hword : word.CanRead name :=
    canRead_many true hname.2 (List.length_pos_iff.mpr hname.1) (by simp)
  have hmore : (many (fun _ ↦ true) 0 none false).CanRead more :=
    canRead_many false (fun _ _ ↦ rfl) (Nat.zero_le _) (by simp)
  have hnamed := ((canRead_literal "class").append hblanks).append (hword.group 1)
  have hopened := (hnamed.append hmore).append (canRead_literal "\x7b")
  have hclosed : classBlock.CanRead ("class".toList ++ space ++ name ++ more ++ "\x7b".toList ++
      body ++ "\x7d".toList) := (hopened.append (canRead_body h)).append (canRead_literal "\x7d")
  simpa using hclosed

/-- The body has a first character, and goes up to the first closing brace behind that. -/
theorem exists_body_of_run {start at_ : PluginRecovery.Cursor} {groups : Groups} {found : Match}
    (h : bodyBlock.run at_ groups (fun stop groups ↦ some ⟨⟨start, stop⟩, groups⟩) = some found) :
    ∃ body after, at_.rest = '{' :: body ++ '}' :: after ∧ body ≠ [] ∧
      '}' ∉ body.tail ∧ found.groupText 2 = body := by
  obtain ⟨opened, kept, hopened, h⟩ := exists_matches_of_run (p := "\x7b") h
  rw [run] at h
  obtain ⟨body, last, hbody, -, hlength, h, hbefore⟩ := exists_reads_of_lazy h
  obtain ⟨closed, after, hclosed, hfound⟩ := exists_matches_of_run h
  obtain rfl := Option.some.inj hfound
  obtain rfl := hclosed.groups_eq (keeps_literal "\x7d")
  have hne : body ≠ [] := List.length_pos_iff.mp hlength
  refine ⟨body, closed.rest, ?_, hne, fun hmem ↦ ?_, hbody.text_eq⟩
  · rw [hopened.reads_literal.1, hbody.1, hclosed.reads_literal.1]
    rfl
  · -- A closing brace behind the first character would have ended the body.
    obtain ⟨first, tail, rfl⟩ := List.exists_cons_of_ne_nil hne
    obtain ⟨front, back, rfl⟩ := List.append_of_mem hmem
    have hrest : opened.rest = first :: front ++ '}' :: (back ++ last.rest) := by
      rw [hbody.1]
      simp
    have hle := hbefore _ _ hrest (Nat.le_add_left _ _) fun stop hstop ↦
      canRead_literal "\x7d" _ _ _ _ (back ++ last.rest) hstop fun _ _ _ ↦ rfl
    simp only [List.length_cons, List.length_append] at hle
    omega

/-- The match of a class has the head of the class and its body. -/
theorem exists_body_of_matchAt? {at_ : PluginRecovery.Cursor} {found : Match}
    (h : classBlock.matchAt? at_ = some found) :
    ∃ head body after, at_.rest = head ++ '{' :: (body ++ '}' :: after) ∧
      IsClassHead head ∧ body ≠ [] ∧ '}' ∉ body.tail ∧ found.groupText 2 = body := by
  rw [matchAt?, run_classBlock] at h
  obtain ⟨named, kept, hnamed, h⟩ := exists_matches_of_run h
  obtain ⟨more, opened, hmore, -, -, h, hbefore⟩ := exists_reads_of_lazy h
  obtain ⟨body, after, hrest, hbody, htail, htext⟩ := exists_body_of_run h
  obtain ⟨intro, hintro⟩ := hnamed.exists_reads
  have haccepts : ("class" ++ blanks ++ group 1 word).Accepts intro := ⟨_, _, _, _, hnamed, hintro⟩
  obtain ⟨front, name, rfl, hfront, hname⟩ := haccepts.of_append
  obtain ⟨keyword, space, rfl, hkeyword, hspace⟩ := hfront.of_append
  obtain rfl := hkeyword.of_literal
  refine ⟨"class".toList ++ space ++ name ++ more, body, after, ?_,
    ⟨space, name, more, rfl, isSpace_of_accepts hspace, isName_of_accepts hname.of_group, ?_⟩,
    hbody, htail, htext⟩
  · rw [hintro.1, hmore.1, hrest]
    simp
  · -- An earlier open brace would have been taken for that of the body.
    intro hmem
    obtain ⟨front, back, rfl⟩ := List.append_of_mem hmem
    have hbrace : named.rest =
        front ++ ('{' :: (back ++ '{' :: body) ++ ['}'] ++ after) := by
      rw [hmore.1, hrest]
      simp
    have hle := hbefore _ _ hbrace (Nat.zero_le _) fun stop hstop ↦
      canRead_bodyBlock (List.append_ne_nil_of_right_ne_nil back (List.cons_ne_nil _ _)) _ _ _ _
        after hstop fun _ _ _ ↦ rfl
    rw [List.length_append, List.length_cons] at hle
    omega

/-- What is searched for properties begins with the body of the first class. -/
theorem FirstClass.exists_body {code front head rest : List Char}
    (hfirst : FirstClass code front head rest) {found : Match}
    (h : classBlock.search? code = some found) :
    ∃ body after, rest = body ++ '}' :: after ∧ body ≠ [] ∧ '}' ∉ body.tail ∧
      found.groupText 2 = body := by
  have hleftmost : classBlock.Leftmost (.start code) found := leftmost_of_searchFrom? h
  obtain ⟨n, hfound, hbefore⟩ := hleftmost
  obtain ⟨head', body, after, hrest, hhead', hbody, htail, htext⟩ := exists_body_of_matchAt? hfound
  refine ⟨body, after, ?_, hbody, htail, htext⟩
  rw [Cursor.rest_skip, Cursor.start] at hrest
  have hclass : code.drop front.length = head ++ '{' :: rest := by
    rw [hfirst.code_eq, List.append_assoc, List.drop_left]
  have hcode : code = code.take n ++ head' ++ '{' :: (body ++ '}' :: after) := by
    rw [List.append_assoc, ← hrest, List.take_append_drop]
  have hle := (hfirst.first _ _ _ hcode hhead').trans (List.length_take_le n code)
  rcases hle.eq_or_lt with rfl | hlt
  · have hheads := hclass.symm.trans hrest
    have hshort := (prefix_and_suffix_of_notMem hheads hfirst.isClassHead.notMem).2
    have hlong := (prefix_and_suffix_of_notMem hheads.symm hhead'.notMem).2
    exact hlong.eq_of_length_le hshort.length_le
  · -- The pattern matches at the first class, since the match that is found ends behind its brace.
    exfalso
    obtain ⟨k, rfl⟩ := Nat.exists_eq_add_of_le hle
    rw [← List.drop_drop, hclass] at hrest
    have hcut : head ++ '{' :: rest =
        (head ++ '{' :: rest).take k ++ head' ++ '{' :: (body ++ '}' :: after) := by
      rw [List.append_assoc, ← hrest, List.take_append_drop]
    obtain ⟨-, more, rfl⟩ := prefix_and_suffix_of_notMem hcut hfirst.isClassHead.notMem
    have hread := canRead_classBlock hfirst.isClassHead
      (List.append_ne_nil_of_right_ne_nil more hbody)
    have hplace : (Cursor.skip front.length (.start code)).rest =
        head ++ '{' :: (more ++ body) ++ ['}'] ++ after := by
      rw [Cursor.rest_skip, Cursor.start, hclass]
      simp
    exact Option.isSome_iff_ne_none.mp (hread.isSome_matchAt? hplace) (hbefore _ hlt)

/-! ### The place of the properties -/

/-- When the body is not empty, what is searched is in it. -/
theorem prefix_of_ne_nil {body inner after after' : List Char}
    (h : body ++ '}' :: after = inner ++ '}' :: after') (htail : '}' ∉ body.tail)
    (hbody : body ≠ []) (hinner : inner ≠ []) : body <+: inner := by
  obtain ⟨first, body, rfl⟩ := List.exists_cons_of_ne_nil hbody
  obtain ⟨first', inner, rfl⟩ := List.exists_cons_of_ne_nil hinner
  obtain ⟨rfl, hrest⟩ := List.cons.inj h
  exact (List.prefix_cons_inj first).mpr (prefix_and_suffix_of_notMem hrest htail).1

/-- When the body is empty, what is searched begins with the brace that closes the class, and the
rest of it is behind that. -/
theorem exists_cons_of_nil {body after after' : List Char}
    (h : body ++ '}' :: after = '}' :: after') (hbody : body ≠ []) :
    ∃ behind, body = '}' :: behind ∧ behind <+: after' := by
  obtain ⟨first, behind, rfl⟩ := List.exists_cons_of_ne_nil hbody
  obtain ⟨rfl, hrest⟩ := List.cons.inj h
  exact ⟨behind, rfl, _, hrest⟩

/-- A brace that closes another one cuts the text behind that one into the slices before and after
it. The first is empty when the two braces stand next to each other. -/
theorem exists_slices_of_closingBrace? {code before rest : List Char} {stop : ℕ}
    (hcode : code = before ++ '{' :: rest)
    (h : closingBrace? (bytes code) (size before + 1) = some stop) :
    ∃ inner after, rest = inner ++ '}' :: after ∧ slice code (size before + 1) stop = inner ∧
      slice code (stop + 1) (size code) = after ∧ (inner = [] ↔ size before + 1 = stop) := by
  rw [hcode] at h
  obtain ⟨inner, after, rfl, rfl⟩ := exists_inner_of_closingBrace? h
  have hopen : size (before ++ ['{']) = size before + 1 := size_append _ _
  have hclose : size (before ++ '{' :: inner ++ ['}']) =
      size (before ++ '{' :: inner) + 1 := size_append _ _
  have hinner := slice_append (before ++ ['{']) inner ('}' :: after)
  have hafter := slice_append (before ++ '{' :: inner ++ ['}']) after []
  rw [hopen, ← List.append_cons, List.append_assoc, List.cons_append, ← hcode] at hinner
  rw [hclose, List.append_nil, ← List.append_cons, List.append_assoc, List.cons_append,
    ← hcode] at hafter
  refine ⟨inner, after, rfl, hinner, hafter, fun hnil ↦ ?_, fun hstop ↦ ?_⟩
  · rw [hnil, hopen]
  · cases inner with
    | nil => rfl
    | cons c inner =>
      rw [← hopen, List.append_cons before '{' (c :: inner)] at hstop
      exact absurd hstop (size_lt_append_cons _ c inner).ne

/-- The first class is closed by the brace that matches the open one. When its body is not empty,
all properties are defined in the body. When it is empty, all of them are defined behind the class.
-/
theorem classProperties_definedIn {code : List Char} {opened closed : ℕ}
    (hopens : OpensClass code opened)
    (hcloses : closingBrace? (bytes code) (opened + 1) = some closed) :
    (opened + 1 < closed →
      ∀ entry ∈ classProperties code, DefinedIn entry (slice code (opened + 1) closed)) ∧
    (opened + 1 = closed →
      ∀ entry ∈ classProperties code, DefinedIn entry (slice code (closed + 1) (size code))) := by
  obtain ⟨before, head, rest, hclass, rfl⟩ := hopens
  obtain ⟨inner, after, hrest, hinner, hafter, hempty⟩ :=
    exists_slices_of_closingBrace? hclass.code_eq hcloses
  rw [hinner, hafter]
  refine ⟨fun hlt entry hentry ↦ ?_, fun heq entry hentry ↦ ?_⟩
  all_goals
    obtain ⟨found, hfound, hdefined⟩ := definedIn_of_mem_classProperties hentry
    obtain ⟨body, behind, hbody, hne, htail, rfl⟩ := hclass.exists_body hfound
    have hsame := hbody.symm.trans hrest
  · have hprefix := prefix_of_ne_nil hsame htail hne (mt hempty.mp hlt.ne)
    exact hdefined.of_isInfix hprefix.isInfix
  · rw [hempty.mpr heq] at hsame
    obtain ⟨later, hlater, hprefix⟩ := exists_cons_of_nil hsame hne
    rw [hlater] at hdefined
    exact hdefined.of_brace_cons.of_isInfix hprefix.isInfix

/-- The first class of a code that begins with its head. -/
theorem opensClass_of_append {head rest : List Char} (h : IsClassHead head) :
    OpensClass (head ++ '{' :: rest) (size head) :=
  ⟨[], head, rest, ⟨rfl, h, fun _ _ _ _ _ ↦ Nat.zero_le _⟩, rfl⟩

theorem isClassHead_a : IsClassHead "class A ".toList :=
  ⟨[' '], ['A'], [' '], rfl, by simp [IsSpace, blank, isBlank],
    by simp [IsName, isWord, isAsciiWord], by decide⟩

/-- A class with a getter before an empty class, and an empty one before an assignment. -/
theorem classProperties_definedIn_getter_and_empty :
    let full := "class A \x7b get b() \x7b return 1; \x7d \x7d class C \x7b\x7d".toList
    let empty := "class A \x7b\x7d class C \x7b c() \x7b this.d = 2; \x7d \x7d".toList
    (OpensClass full 8 ∧ closingBrace? (bytes full) 9 = some 32 ∧
      DefinedIn ("b", readValue ['1']) (slice full 9 32)) ∧
      OpensClass empty 8 ∧ closingBrace? (bytes empty) 9 = some 9 ∧
      DefinedIn ("d", readValue ['2']) (slice empty 10 (size empty)) := by
  intro full empty
  have hfull : OpensClass full 8 := opensClass_of_append isClassHead_a
  have hempty : OpensClass empty 8 := opensClass_of_append isClassHead_a
  have hcloses : closingBrace? (bytes full) 9 = some 32 := by decide +kernel
  have hcloses' : closingBrace? (bytes empty) 9 = some 9 := by decide +kernel
  have hproperties : classProperties full = [("b", readValue ['1'])] := by rfl
  have hproperties' : classProperties empty = [("d", readValue ['2'])] := by rfl
  have hinside := (classProperties_definedIn hfull hcloses).1 (by decide)
  have hbehind := (classProperties_definedIn hempty hcloses').2 rfl
  rw [hproperties] at hinside
  rw [hproperties'] at hbehind
  exact ⟨⟨hfull, hcloses, hinside _ (List.mem_singleton_self _)⟩, hempty, hcloses',
    hbehind _ (List.mem_singleton_self _)⟩

/-- An empty class gets the properties of the class behind it. -/
theorem classProperties_definedIn_empty :
    let code :=
      "class A \x7b\x7d class B \x7b constructor() \x7b this.name = \"x\"; \x7d \x7d".toList
    OpensClass code 8 ∧ closingBrace? (bytes code) 9 = some 9 ∧
      classProperties code = [("name", readValue "\"x\"".toList)] ∧
      ¬ ∀ entry ∈ classProperties code, DefinedIn entry (slice code 9 9) := by
  intro code
  have hopens : OpensClass code 8 := opensClass_of_append isClassHead_a
  have hproperties : classProperties code = [("name", readValue "\"x\"".toList)] := by rfl
  refine ⟨hopens, by decide +kernel, hproperties, fun hall ↦ ?_⟩
  have hslice : slice code 9 9 = [] := by decide +kernel
  obtain ⟨front, part, back, name, value, htext, hdefines, -⟩ :=
    hall _ (hproperties ▸ List.mem_singleton_self _)
  obtain ⟨c, rest, rfl, -⟩ := hdefines.exists_cons
  rw [hslice] at htext
  simp at htext

end PluginRecovery.Script
