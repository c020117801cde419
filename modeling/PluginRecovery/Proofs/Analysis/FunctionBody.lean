import Mathlib
import PluginRecovery.Proofs.Analysis.FunctionHead
import PluginRecovery.Proofs.Pattern.Captures
import PluginRecovery.Proofs.Pattern.Leftmost

/-!
Which part of a script is taken for the body of a function, when the script is read as a whole. The
pattern for a body allows for blocks in it, but the first row of characters that it reads runs up to
the first closing brace, and that ends the body: the pattern finds what it would find without the
blocks (`run_body`). So a body is what stands between the brace behind a function's parameters and
the next closing brace, if anything does, and a function is passed over if nothing does
(`bodies_wholeText`).
-/

set_option autoImplicit false
set_option relaxedAutoImplicit false

namespace PluginRecovery.WholeText

open PluginRecovery.Text PluginRecovery.Pattern

/-! ### Bodies without blocks -/

/-- Characters up to a closing brace, at least one. -/
def openRow : Pattern :=
  oneOrMore (· != '}')

/-- A body in braces without any block in it, kept as group 1. -/
def plainBody : Pattern :=
  "\x7b" ++ group 1 openRow ++ "\x7d"

/-- A block in braces and what follows it up to the next closing brace. -/
def block : Pattern :=
  "\x7b" ++ anyNumber (· != '}') ++ "\x7d" ++ anyNumber (· != '}')

section Runs

variable {α : Type} {at_ : Cursor} {groups : Groups} {next : Cursor → Groups → Option α}

/-- What a run goes on with behind the text of a body that begins at a place: the closing brace. -/
def closing (next : Cursor → Groups → Option α) (opened stop : Cursor) (groups : Groups) :
    Option α :=
  (literal "\x7d").run stop ((1, ⟨opened, stop⟩) :: groups) next

/-- A body with blocks is read as its first row, any number of blocks, and the closing brace. -/
theorem run_body_eq : body.run at_ groups next =
    (literal "\x7b").run at_ groups fun opened kept ↦
      openRow.run opened kept fun stop kept ↦ (star block).run stop kept (closing next opened) :=
  rfl

/-- A plain body is read as its row and the closing brace. -/
theorem run_plainBody_eq : plainBody.run at_ groups next =
    (literal "\x7b").run at_ groups fun opened kept ↦
      openRow.run opened kept (closing next opened) :=
  rfl

/-- A body is only closed at a closing brace. -/
theorem exists_rest_of_closing {opened : Cursor} {found : α}
    (h : closing next opened at_ groups = some found) : ∃ rest, at_.rest = '}' :: rest := by
  obtain ⟨stop, kept, hmatches, -⟩ := exists_matches_of_run h
  exact ⟨stop.rest, hmatches.reads_literal.1⟩

theorem isSome_closing (hnext : ∀ stop kept, (next stop kept).isSome = true) (opened : Cursor)
    {rest : List Char} (h : at_.rest = '}' :: rest) :
    (closing next opened at_ groups).isSome = true :=
  canRead_literal "\x7d" α at_ _ next rest h fun stop kept _ ↦ hnext stop kept

/-- No body is closed where no closing brace stands. -/
theorem run_closing_eq_none (p : Pattern) (opened : Cursor) (h : '}' ∉ at_.rest) :
    p.run at_ groups (closing next opened) = none := by
  rw [Option.eq_none_iff_forall_not_mem]
  intro found hfound
  obtain ⟨stop, kept, hmatches, hclosing⟩ := exists_matches_of_run hfound
  obtain ⟨text, htext⟩ := hmatches.exists_reads
  obtain ⟨rest, hrest⟩ := exists_rest_of_closing hclosing
  rw [htext.1, hrest] at h
  exact h (List.mem_append_right text List.mem_cons_self)

/-- A row is not empty. -/
theorem run_openRow_eq_none {rest : List Char} (h : at_.rest = '}' :: rest) :
    openRow.run at_ groups next = none := by
  rw [Option.eq_none_iff_forall_not_mem]
  intro found hfound
  obtain ⟨stop, kept, hmatches, -⟩ := exists_matches_of_run hfound
  obtain ⟨text, htext⟩ := hmatches.exists_reads
  obtain ⟨hall, hlength, -⟩ := Accepts.of_many ⟨_, _, _, _, hmatches, htext⟩
  obtain ⟨c, text, rfl⟩ := List.exists_cons_of_length_pos hlength
  obtain rfl : '}' = c := (List.cons.inj (h.symm.trans htext.1)).1
  simpa using hall _ List.mem_cons_self

/-- No block begins with a closing brace. -/
theorem run_star_block {rest : List Char} (h : at_.rest = '}' :: rest) :
    (star block).run at_ groups next = next at_ groups := by
  have hnone (next : Cursor → Groups → Option α) : block.run at_ groups next = none := by
    rw [Option.eq_none_iff_forall_not_mem]
    intro found hfound
    obtain ⟨stop, kept, hmatches, -⟩ := exists_matches_of_run (p := "\x7b") hfound
    have hbrace := h.symm.trans hmatches.reads_literal.1
    exact absurd (List.cons.inj hbrace).1 (by decide)
  rw [run, h, repeatStep, hnone]

/-- A body is found as if no block could be in it. -/
theorem run_body (hnext : ∀ stop kept, (next stop kept).isSome = true) :
    body.run at_ groups next = plainBody.run at_ groups next := by
  rw [run_body_eq, run_plainBody_eq]
  congr 1
  funext opened kept
  by_cases hbrace : '}' ∈ opened.rest
  · obtain ⟨front, back, hrest, hfront⟩ := List.eq_append_cons_of_mem hbrace
    cases front with
    | nil => rw [run_openRow_eq_none hrest, run_openRow_eq_none hrest]
    | cons c front =>
      -- The row runs up to the brace, and there no block begins, but the body can end.
      have hstop : (opened.skip (c :: front).length).rest = '}' :: back := by
        rw [Cursor.rest_skip, hrest, List.drop_left]
      have hclosing : (closing next opened (opened.skip (c :: front).length) kept).isSome = true :=
        isSome_closing hnext opened hstop
      obtain ⟨found, hfound⟩ := Option.isSome_iff_exists.mp hclosing
      have hrow {next : Cursor → Groups → Option α}
          (hnext : next (opened.skip (c :: front).length) kept = some found) :
          openRow.run opened kept next = some found :=
        run_many_of_longest hrest (fun d hd ↦ by simpa using ne_of_mem_of_not_mem hd hfront)
          (by simp) (Nat.le_add_left 1 _) hnext
      rw [hrow hfound]
      exact hrow ((run_star_block hstop).trans hfound)
  · rw [run_closing_eq_none openRow opened hbrace]
    exact run_closing_eq_none (openRow ++ star block) opened hbrace

end Runs

/-! ### Bodies behind heads -/

def detailsFunctions : List (String × FunctionForm) := [
  ("details-method",
    .method ["getDetails", "fetchDetails", "getMangaDetails", "getNovelDetails"]),
  ("details-property", .property ["getDetails", "fetchDetails"])]

def contentFunctions : List (String × FunctionForm) := [
  ("content-method", .method ["getContent", "fetchContent", "getChapter", "getPageList"]),
  ("content-property", .property ["getContent", "fetchContent"])]

/-- The forms of functions that have a body by the given pattern. -/
def formsWith (body : Pattern) (functions : List (String × FunctionForm)) : List Form :=
  functions.map fun function ↦ ⟨function.1, function.2.head ++ body⟩

/-- The text stands in the source right between the open brace behind the head of one of the
functions and a closing brace. It is not empty, and this is the first closing brace. -/
structure IsBodyOf (functions : List (String × FunctionForm)) (source body : List Char) : Prop where
  ne_nil : body ≠ []
  notMem : '}' ∉ body
  enclosed : ∃ function ∈ functions, ∃ front head back, function.2.IsHead head ∧
    source = front ++ head ++ '{' :: body ++ '}' :: back

variable {source : List Char} {form : FunctionForm}

/-- A match of a function keeps the body behind its head. -/
theorem exists_body_of_search? {found : Match}
    (h : (form.head ++ plainBody).search? source = some found) :
    ∃ span front head back, found.group? 1 = some span ∧ form.IsHead head ∧ span.text ≠ [] ∧
      '}' ∉ span.text ∧ source = front ++ head ++ '{' :: span.text ++ '}' :: back := by
  have halways : (form.head ++ plainBody).alwaysKeeps 1 = true := by simp [plainBody, alwaysKeeps]
  obtain ⟨span, hspan⟩ := exists_group?_of_alwaysKeeps h halways
  obtain ⟨front, whole, back, kept, rfl, hcaptures, hgroups⟩ := (finds_of_search? h).exists_captures
  obtain ⟨head, _, _, _, rfl, rfl, hbefore, hplain⟩ := hcaptures.of_append
  obtain ⟨rfl, hhead⟩ := hbefore.of_keeps_nil form.keeps_head
  obtain ⟨_, rfl, hopened⟩ := hplain.of_append_literal
  obtain ⟨_, body, _, rfl, rfl, hopen, hrow⟩ := hopened.of_append_group rfl
  obtain ⟨rfl, hbrace⟩ := hopen.of_keeps_nil (keeps_literal _)
  obtain rfl := hbrace.of_literal
  obtain ⟨hall, hlength, -⟩ := hrow.of_many
  obtain rfl : span.text = body := by
    have hgroup := hgroups 1
    rw [Match.groupText, hspan] at hgroup
    exact hgroup
  exact ⟨span, front, head, back, hspan, FunctionForm.isHead_of_accepts hhead,
    List.length_pos_iff.mp hlength, fun hmem ↦ by simpa using hall _ hmem, by simp⟩

/-- A function with a body is found. -/
theorem isSome_search? {front head body back : List Char} (hhead : form.IsHead head)
    (hne : body ≠ []) (hbody : '}' ∉ body)
    (hsource : source = front ++ head ++ '{' :: body ++ '}' :: back) :
    ((form.head ++ plainBody).search? source).isSome = true := by
  have hrow : openRow.CanRead body :=
    canRead_many true (fun c hc ↦ by simpa using ne_of_mem_of_not_mem hc hbody)
      (List.length_pos_iff.mpr hne) (by simp)
  have hplain : plainBody.CanRead ('{' :: body ++ ['}']) :=
    ((canRead_literal "\x7b").append (hrow.group 1)).append (canRead_literal "\x7d")
  have hoccurs := ((FunctionForm.canRead_head hhead).append hplain).occursIn front back
  rw [hsource]
  simpa [occursIn] using hoccurs

/-- Bodies are read as if no block could be in them. -/
theorem bodyOf_formsWith_body (field : String) (source : List Char)
    (functions : List (String × FunctionForm)) :
    bodyOf field source (formsWith body functions) =
      bodyOf field source (formsWith plainBody functions) := by
  have hsearch (form : FunctionForm) :
      (form.head ++ body).search? source = (form.head ++ plainBody).search? source := by
    refine search?_congr (fun at_ ↦ ?_) source
    exact congrArg (form.head.run at_ []) (funext₂ fun _ _ ↦ run_body fun _ _ ↦ rfl)
  induction functions with
  | nil => rfl
  | cons function functions ih =>
    simp only [formsWith, List.map_cons, bodyOf, hsearch]
    cases ((function.2.head ++ plainBody).search? source).bind fun found ↦ found.group? 1 with
    | some span => rfl
    | none => exact ih

/-- A body that is read is one, and a body is read if a function has one. -/
theorem value_bodyOf_formsWith (field : String) (source : List Char)
    (functions : List (String × FunctionForm)) :
    (∀ body ∈ (bodyOf field source (formsWith plainBody functions)).value,
      IsBodyOf functions source body) ∧
    ((bodyOf field source (formsWith plainBody functions)).value = none →
      ∀ body, ¬ IsBodyOf functions source body) := by
  induction functions with
  | nil => exact ⟨by simp [formsWith, bodyOf], fun _ body h ↦ by simpa using h.enclosed⟩
  | cons function functions ih =>
    simp only [formsWith, List.map_cons, bodyOf]
    cases hsearch : (function.2.head ++ plainBody).search? source with
    | none =>
      refine ⟨fun body hbody ↦ ?_, fun hnone body hbody ↦ ?_⟩
      · obtain ⟨other, hmem, henclosed⟩ := (ih.1 body hbody).enclosed
        exact ⟨(ih.1 body hbody).ne_nil, (ih.1 body hbody).notMem, other,
          List.mem_cons_of_mem _ hmem, henclosed⟩
      · obtain ⟨other, hmem, front, head, back, hhead, hsource⟩ := hbody.enclosed
        rcases List.mem_cons.mp hmem with rfl | hmem
        · have hfound := isSome_search? hhead hbody.ne_nil hbody.notMem hsource
          simp [hsearch] at hfound
        · exact ih.2 hnone body ⟨hbody.ne_nil, hbody.notMem, other, hmem, front, head, back, hhead,
            hsource⟩
    | some found =>
      obtain ⟨span, front, head, back, hspan, hhead, hne, hnotMem, hsource⟩ :=
        exists_body_of_search? hsearch
      simp only [Option.bind_some, hspan]
      refine ⟨fun body hbody ↦ ?_, fun hnone ↦ absurd hnone (by simp)⟩
      obtain rfl : span.text = body := by simpa using hbody
      exact ⟨hne, hnotMem, function, List.mem_cons_self, front, head, back, hhead, hsource⟩

/-- How the body of one of the functions is read from a source, with what is reported. -/
structure ReadsBody (functions : List (String × FunctionForm)) (field : String)
    (source : List Char) (text : Traced (Option (List Char))) : Prop where
  /-- What is read is a body that ends at its first closing brace. -/
  isBodyOf : ∀ body ∈ text.value, IsBodyOf functions source body
  /-- Nothing is read only if there is no such body. -/
  value_eq_none_iff : text.value = none ↔ ∀ body, ¬ IsBodyOf functions source body
  /-- Functions whose braces are closed at once are passed over. -/
  value_eq_none_of_empty : (∀ function ∈ functions, ∀ front head back, function.2.IsHead head →
    source = front ++ head ++ '{' :: back → ∃ behind, back = '}' :: behind) →
      text.value = none
  /-- Without blocks in the pattern of a body the same is read and reported. -/
  eq_plainBody : text = bodyOf field source (formsWith plainBody functions)

/-- The search for a body does what the relation between a source and its bodies says. -/
theorem readsBody_bodyOf (functions : List (String × FunctionForm)) (field : String)
    (source : List Char) :
    ReadsBody functions field source (bodyOf field source (formsWith body functions)) := by
  rw [bodyOf_formsWith_body]
  obtain ⟨hsome, hnone⟩ := value_bodyOf_formsWith field source functions
  have hiff : (bodyOf field source (formsWith plainBody functions)).value = none ↔
      ∀ body, ¬ IsBodyOf functions source body :=
    ⟨hnone, fun hall ↦ Option.eq_none_iff_forall_not_mem.mpr fun body hmem ↦
      hall body (hsome body hmem)⟩
  refine ⟨hsome, hiff, fun hempty ↦ hiff.mpr fun body hbody ↦ ?_, rfl⟩
  obtain ⟨function, hmem, front, head, back, hhead, hsource⟩ := hbody.enclosed
  obtain ⟨behind, hbehind⟩ :=
    hempty function hmem front head (body ++ '}' :: back) hhead (by simp [hsource])
  obtain ⟨c, body', rfl⟩ := List.exists_cons_of_ne_nil hbody.ne_nil
  obtain rfl : c = '}' := (List.cons.inj hbehind).1
  exact hbody.notMem List.mem_cons_self

/-- From the whole text of a script, the body of a function for details or for the text of a chapter
is read up to the first closing brace behind the brace that opens it. It is not empty, and the
blocks that the pattern allows for have no part in it. -/
theorem bodies_wholeText (source : List Char) :
    ReadsBody detailsFunctions "details" source (Scope.wholeText source).detailsText ∧
      ReadsBody contentFunctions "content" source (Scope.wholeText source).contentText :=
  ⟨readsBody_bodyOf detailsFunctions "details" source,
    readsBody_bodyOf contentFunctions "content" source⟩

example :
    let source :=
      "async getDetails(u) \x7b if (u) \x7b return u \x7d return \x7d getContent(u) \x7b\x7d".toList
    (Scope.wholeText source).detailsText.value = some " if (u) \x7b return u ".toList ∧
      (Scope.wholeText source).contentText.value = none := by
  decide +kernel

end PluginRecovery.WholeText
