import Mathlib
import PluginRecovery.Proofs.Dictionary
import PluginRecovery.Proofs.Text.Encoding
import PluginRecovery.Trace.Chain

/-!
What a match of a pattern says about the text. `Pattern.Matches` tells the ways in which a pattern
can match, without the order in which they are tried. A run that finds something has taken one of
them (`exists_matches_of_run`), so each group of a found match holds a text that one of the
pattern's bodies for that group accepts (`exists_accepts_of_group?`). For a pattern that keeps
group 1 in every match, that holds of what it captures (`exists_accepts_of_capture?`).
-/

set_option autoImplicit false
set_option relaxedAutoImplicit false

namespace PluginRecovery

open PluginRecovery.Text

/-! ### Places -/

/-- The text leads from one place to the other. -/
def Cursor.Reads (start : Cursor) (text : List Char) (stop : Cursor) : Prop :=
  start.rest = text ++ stop.rest ∧ stop.offset = start.offset + size text

namespace Cursor.Reads

theorem refl (at_ : Cursor) : at_.Reads [] at_ :=
  ⟨rfl, rfl⟩

/-- Texts are read one behind the other. -/
theorem trans {start middle stop : Cursor} {first second : List Char}
    (hfirst : start.Reads first middle) (hsecond : middle.Reads second stop) :
    start.Reads (first ++ second) stop := by
  obtain ⟨hrest, hoffset⟩ := hfirst
  obtain ⟨hrest', hoffset'⟩ := hsecond
  constructor
  · rw [hrest, hrest', List.append_assoc]
  · rw [hoffset', hoffset, size_append, Nat.add_assoc]

theorem after {at_ : Cursor} {c : Char} {rest : List Char} (h : at_.rest = c :: rest) :
    at_.Reads [c] (at_.after c rest) :=
  ⟨h, rfl⟩

/-- The part between two places is the text that leads from the one to the other. -/
theorem text_eq {start stop : Cursor} {text : List Char} (h : start.Reads text stop) :
    Span.text ⟨start, stop⟩ = text := by
  obtain ⟨hrest, hoffset⟩ := h
  rw [Span.text, hoffset, Nat.add_sub_cancel_left, hrest, takeBytes_size_append]

end Cursor.Reads

namespace Pattern

/-! ### Ways to match -/

/-- A way for a pattern to match from one place to another, with the groups that are kept before it
and after it. -/
inductive Matches : Pattern → Cursor → Groups → Cursor → Groups → Prop
  | empty (at_ : Cursor) (groups : Groups) : Matches .empty at_ groups at_ groups
  | one {accepts : Char → Bool} {at_ : Cursor} {c : Char} {rest : List Char}
    (hrest : at_.rest = c :: rest) (hc : accepts c = true) (groups : Groups) :
    Matches (.one accepts) at_ groups (at_.after c rest) groups
  | lineStart {at_ : Cursor} (h : at_.atLineStart = true) (groups : Groups) :
    Matches .lineStart at_ groups at_ groups
  | seq {first second : Pattern} {start middle stop : Cursor} {before kept after : Groups}
    (hfirst : Matches first start before middle kept)
    (hsecond : Matches second middle kept stop after) :
    Matches (.seq first second) start before stop after
  | altFirst {first : Pattern} {start stop : Cursor} {before after : Groups}
    (h : Matches first start before stop after) (second : Pattern) :
    Matches (.alt first second) start before stop after
  | altSecond {second : Pattern} {start stop : Cursor} {before after : Groups} (first : Pattern)
    (h : Matches second start before stop after) :
    Matches (.alt first second) start before stop after
  | many {accepts : Char → Bool} {least : ℕ} {most : Option ℕ} {start stop : Cursor}
    {text : List Char} (hreads : start.Reads text stop) (hall : ∀ c ∈ text, accepts c = true)
    (hleast : least ≤ text.length) (hmost : ∀ bound ∈ most, text.length ≤ bound) (greedy : Bool)
    (groups : Groups) : Matches (.many accepts least most greedy) start groups stop groups
  | starStop (body : Pattern) (at_ : Cursor) (groups : Groups) :
    Matches (.star body) at_ groups at_ groups
  | starStep {body : Pattern} {start middle stop : Cursor} {before kept after : Groups}
    (hbody : Matches body start before middle kept)
    (hrest : Matches (.star body) middle kept stop after) :
    Matches (.star body) start before stop after
  | group {body : Pattern} {start stop : Cursor} {before kept : Groups} (number : ℕ)
    (h : Matches body start before stop kept) :
    Matches (.group number body) start before stop ((number, ⟨start, stop⟩) :: kept)

/-- A match of a sequence is one of its first part and one of its second behind it. -/
theorem Matches.of_append {first second : Pattern} {start stop : Cursor} {before after : Groups}
    (h : (first ++ second).Matches start before stop after) :
    ∃ middle kept, first.Matches start before middle kept ∧
      second.Matches middle kept stop after := by
  change (Pattern.seq first second).Matches start before stop after at h
  cases h with
  | seq hfirst hsecond => exact ⟨_, _, hfirst, hsecond⟩

/-- A match reads some text on its way. -/
theorem Matches.exists_reads {p : Pattern} {start stop : Cursor} {before after : Groups}
    (h : p.Matches start before stop after) : ∃ text, start.Reads text stop := by
  induction h with
  | empty at_ | lineStart | starStop _ at_ => exact ⟨[], .refl _⟩
  | one hrest => exact ⟨_, .after hrest⟩
  | seq _ _ ihfirst ihsecond | starStep _ _ ihfirst ihsecond =>
    obtain ⟨first, hfirst⟩ := ihfirst
    obtain ⟨second, hsecond⟩ := ihsecond
    exact ⟨first ++ second, hfirst.trans hsecond⟩
  | altFirst _ _ ih | altSecond _ _ ih | group _ _ ih => exact ih
  | many hreads => exact ⟨_, hreads⟩

/-! ### Runs -/

variable {α : Type}

/-- A repetition goes on with `next` at once, or reads one more character. -/
theorem repeatOne_cons {accepts : Char → Bool} {greedy : Bool} {next : Cursor → Option α}
    {least : ℕ} {most : Option ℕ} {before : Option Char} {offset : ℕ} {c : Char} {rest : List Char}
    {found : α}
    (h : repeatOne accepts greedy next least most before offset (c :: rest) = some found) :
    (least = 0 ∧ next ⟨before, c :: rest, offset⟩ = some found) ∨
      (accepts c = true ∧ most ≠ some 0 ∧
        repeatOne accepts greedy next (least - 1) (most.map (· - 1)) (some c)
          (offset + c.utf8Size) rest = some found) := by
  let now := if least = 0 then next ⟨before, c :: rest, offset⟩ else none
  let later := repeatOne accepts greedy next (least - 1) (most.map (· - 1)) (some c)
    (offset + c.utf8Size) rest
  have hcases : now = some found ∨ (accepts c && most != some 0) = true ∧ later = some found := by
    rw [repeatOne] at h
    cases hmore : accepts c && most != some 0 <;> cases hgreedy : greedy <;>
      cases hnow : now <;> cases hlater : later <;> simp_all [now, later]
  rcases hcases with hnow | ⟨hmore, hlater⟩
  · simp only [now] at hnow
    split_ifs at hnow with hleast
    exact .inl ⟨hleast, hnow⟩
  · obtain ⟨hc, hmost⟩ := Bool.and_eq_true_iff.mp hmore
    exact .inr ⟨hc, by simpa using hmost, hlater⟩

/-- A repetition of a class reads characters of it, as many as it may. -/
theorem exists_reads_of_repeatOne {accepts : Char → Bool} {greedy : Bool}
    {next : Cursor → Option α} {least : ℕ} {most : Option ℕ} {before : Option Char} {offset : ℕ}
    {rest : List Char} {found : α}
    (h : repeatOne accepts greedy next least most before offset rest = some found) :
    ∃ text stop, Cursor.Reads ⟨before, rest, offset⟩ text stop ∧ (∀ c ∈ text, accepts c = true) ∧
      least ≤ text.length ∧ (∀ bound ∈ most, text.length ≤ bound) ∧ next stop = some found := by
  induction rest generalizing least most before offset with
  | nil =>
    rw [repeatOne] at h
    split_ifs at h with hleast
    exact ⟨[], _, .refl _, by simp, by simp [hleast], by simp, h⟩
  | cons c rest ih =>
    rcases repeatOne_cons h with ⟨rfl, hnext⟩ | ⟨hc, hmost, hrest⟩
    · exact ⟨[], _, .refl _, by simp, by simp, by simp, hnext⟩
    · obtain ⟨text, stop, hreads, hall, hleast', hmost', hnext⟩ := ih hrest
      refine ⟨c :: text, stop, (Cursor.Reads.after rfl).trans hreads, ?_, ?_, ?_, hnext⟩
      · exact List.forall_mem_cons.mpr ⟨hc, hall⟩
      · rw [List.length_cons]
        omega
      · rintro bound rfl
        have hpos : bound ≠ 0 := fun h ↦ hmost (congrArg some h)
        have hle := hmost' (bound - 1) rfl
        rw [List.length_cons]
        omega

/-- A repetition that finds something has found it behind some rounds of its body. -/
theorem exists_matches_of_repeatStep {body : Pattern} {next : Cursor → Groups → Option α}
    (hbody : ∀ {start : Cursor} {groups : Groups} {next : Cursor → Groups → Option α} {found : α},
      body.run start groups next = some found →
        ∃ stop kept, body.Matches start groups stop kept ∧ next stop kept = some found)
    {bound : List Char} {start : Cursor} {groups : Groups} {found : α}
    (h : repeatStep body.run next bound start groups = some found) :
    ∃ stop kept, (star body).Matches start groups stop kept ∧ next stop kept = some found := by
  induction bound generalizing start groups found with
  | nil => exact ⟨start, groups, .starStop body start groups, h⟩
  | cons c bound ih =>
    rw [repeatStep] at h
    cases hround : body.run start groups (repeatStep body.run next bound) with
    | some other =>
      obtain ⟨middle, kept, hmatches, hrest⟩ := hbody hround
      obtain ⟨stop, after, hstar, hnext⟩ := ih hrest
      simp only [hround, Option.some.injEq] at h
      exact ⟨stop, after, .starStep hmatches hstar, h ▸ hnext⟩
    | none =>
      simp only [hround] at h
      exact ⟨start, groups, .starStop body start groups, h⟩

/-- A run that finds something has found it behind one of the ways to match. -/
theorem exists_matches_of_run {p : Pattern} {start : Cursor} {groups : Groups}
    {next : Cursor → Groups → Option α} {found : α} (h : p.run start groups next = some found) :
    ∃ stop kept, p.Matches start groups stop kept ∧ next stop kept = some found := by
  induction p generalizing start groups next found with
  | empty => exact ⟨start, groups, .empty start groups, h⟩
  | one accepts =>
    rw [run] at h
    cases hrest : start.rest with
    | nil => simp [hrest] at h
    | cons c rest =>
      simp only [hrest] at h
      split_ifs at h with hc
      exact ⟨_, groups, .one hrest hc groups, h⟩
  | lineStart =>
    rw [run] at h
    split_ifs at h with hline
    exact ⟨start, groups, .lineStart hline groups, h⟩
  | seq first second ihfirst ihsecond =>
    obtain ⟨middle, kept, hfirst, hrest⟩ := ihfirst h
    obtain ⟨stop, after, hsecond, hnext⟩ := ihsecond hrest
    exact ⟨stop, after, .seq hfirst hsecond, hnext⟩
  | alt first second ihfirst ihsecond =>
    rw [run] at h
    cases hrun : first.run start groups next with
    | some other =>
      obtain ⟨stop, kept, hfirst, hnext⟩ := ihfirst hrun
      simp only [hrun, Option.some.injEq] at h
      exact ⟨stop, kept, .altFirst hfirst second, h ▸ hnext⟩
    | none =>
      simp only [hrun] at h
      obtain ⟨stop, kept, hsecond, hnext⟩ := ihsecond h
      exact ⟨stop, kept, .altSecond first hsecond, hnext⟩
  | many accepts least most greedy =>
    obtain ⟨text, stop, hreads, hall, hleast, hmost, hnext⟩ := exists_reads_of_repeatOne h
    exact ⟨stop, groups, .many hreads hall hleast hmost greedy groups, hnext⟩
  | star body ih => exact exists_matches_of_repeatStep (fun h ↦ ih h) h
  | group number body ih =>
    obtain ⟨stop, kept, hbody, hnext⟩ := ih h
    exact ⟨stop, _, .group number hbody, hnext⟩

/-- The match that begins at a place is a way for the pattern to match from there. -/
theorem matches_of_matchAt? {p : Pattern} {at_ : Cursor} {found : Match}
    (h : p.matchAt? at_ = some found) :
    found.whole.start = at_ ∧ p.Matches found.whole.start [] found.whole.stop found.groups := by
  obtain ⟨stop, groups, hmatches, hfound⟩ := exists_matches_of_run h
  obtain rfl := Option.some.inj hfound
  exact ⟨rfl, hmatches⟩

/-- What a search finds is the match that begins at some place of the text. -/
theorem exists_matchAt?_of_searchFrom? {p : Pattern} {before : Option Char} {offset : ℕ}
    {text : List Char} {found : Match} (h : p.searchFrom? before offset text = some found) :
    ∃ front at_, Cursor.Reads ⟨before, text, offset⟩ front at_ ∧ p.matchAt? at_ = some found := by
  induction text generalizing before offset with
  | nil => exact ⟨[], _, .refl _, h⟩
  | cons c text ih =>
    rw [searchFrom?] at h
    cases hhere : p.matchAt? ⟨before, c :: text, offset⟩ with
    | some other =>
      simp only [hhere] at h
      exact ⟨[], _, .refl _, hhere.trans h⟩
    | none =>
      simp only [hhere] at h
      obtain ⟨front, at_, hfront, hfound⟩ := ih h
      exact ⟨c :: front, at_, (Cursor.Reads.after rfl).trans hfront, hfound⟩

/-- What a search finds is a way for the pattern to match. -/
theorem matches_of_searchFrom? {p : Pattern} {before : Option Char} {offset : ℕ}
    {text : List Char} {found : Match} (h : p.searchFrom? before offset text = some found) :
    p.Matches found.whole.start [] found.whole.stop found.groups := by
  obtain ⟨front, at_, -, hfound⟩ := exists_matchAt?_of_searchFrom? h
  exact (matches_of_matchAt? hfound).2

/-! ### Groups -/

/-- The text is read by the pattern in some place. -/
def Accepts (p : Pattern) (text : List Char) : Prop :=
  ∃ start before stop after, p.Matches start before stop after ∧ start.Reads text stop

/-- The part between the ends of a match is a text that the pattern accepts. -/
theorem Matches.accepts {p : Pattern} {start stop : Cursor} {before after : Groups}
    (h : p.Matches start before stop after) : p.Accepts (Span.text ⟨start, stop⟩) := by
  obtain ⟨text, hreads⟩ := h.exists_reads
  rw [hreads.text_eq]
  exact ⟨start, before, stop, after, h, hreads⟩

/-- A repetition of characters accepts only characters of its class, and as many as it allows. -/
theorem Accepts.of_many {accepts : Char → Bool} {least : ℕ} {most : Option ℕ} {greedy : Bool}
    {text : List Char} (h : (many accepts least most greedy).Accepts text) :
    (∀ c ∈ text, accepts c = true) ∧ least ≤ text.length ∧ ∀ bound ∈ most, text.length ≤ bound := by
  obtain ⟨start, before, stop, after, hmatches, hreads⟩ := h
  cases hmatches with
  | many hreads' hall hleast hmost =>
    obtain rfl : _ = text := hreads'.text_eq.symm.trans hreads.text_eq
    exact ⟨hall, hleast, hmost⟩

/-- The numbers and the bodies of the groups in a pattern. -/
def keeps : Pattern → List (ℕ × Pattern)
  | .empty | .one _ | .lineStart | .many _ _ _ _ => []
  | .seq first second | .alt first second => first.keeps ++ second.keeps
  | .star body => body.keeps
  | .group number body => (number, body) :: body.keeps

/-- Each group that a match adds holds a part that a body of that number matches. -/
theorem Matches.mem_groups {p : Pattern} {start stop : Cursor} {before after : Groups}
    (h : p.Matches start before stop after) {entry : ℕ × Span} (hentry : entry ∈ after) :
    entry ∈ before ∨ ∃ body, (entry.1, body) ∈ p.keeps ∧ body.Accepts entry.2.text := by
  induction h with
  | empty | one | lineStart | many | starStop => exact .inl hentry
  | seq _ _ ihfirst ihsecond =>
    rcases ihsecond hentry with hkept | ⟨body, hbody, haccepts⟩
    · rcases ihfirst hkept with hbefore | ⟨body, hbody, haccepts⟩
      · exact .inl hbefore
      · exact .inr ⟨body, List.mem_append_left _ hbody, haccepts⟩
    · exact .inr ⟨body, List.mem_append_right _ hbody, haccepts⟩
  | altFirst _ _ ih =>
    rcases ih hentry with hbefore | ⟨body, hbody, haccepts⟩
    · exact .inl hbefore
    · exact .inr ⟨body, List.mem_append_left _ hbody, haccepts⟩
  | altSecond _ _ ih =>
    rcases ih hentry with hbefore | ⟨body, hbody, haccepts⟩
    · exact .inl hbefore
    · exact .inr ⟨body, List.mem_append_right _ hbody, haccepts⟩
  | starStep _ _ ihbody ihrest =>
    rcases ihrest hentry with hkept | hbody
    · exact ihbody hkept
    · exact .inr hbody
  | group number h ih =>
    rcases List.mem_cons.mp hentry with rfl | hkept
    · exact .inr ⟨_, List.mem_cons_self, h.accepts⟩
    · rcases ih hkept with hbefore | ⟨body, hbody, haccepts⟩
      · exact .inl hbefore
      · exact .inr ⟨body, List.mem_cons_of_mem _ hbody, haccepts⟩

/-- A group of a match holds a text that a body of its number accepts. -/
theorem Matches.exists_accepts_of_lookup {p : Pattern} {start stop : Cursor} {groups : Groups}
    {number : ℕ} {span : Span} (h : p.Matches start [] stop groups)
    (hspan : groups.lookup number = some span) :
    ∃ body, (number, body) ∈ p.keeps ∧ body.Accepts span.text :=
  (h.mem_groups (Dictionary.mem_of_lookup hspan)).resolve_left List.not_mem_nil

/-- The part that a group matched is accepted by a body of that number. -/
theorem exists_accepts_of_group? {p : Pattern} {text : List Char} {found : Match} {number : ℕ}
    {span : Span} (h : p.search? text = some found) (hspan : found.group? number = some span) :
    ∃ body, (number, body) ∈ p.keeps ∧ body.Accepts span.text :=
  (matches_of_searchFrom? h).exists_accepts_of_lookup hspan

/-- Every match of the pattern keeps a group of the number. -/
def alwaysKeeps (number : ℕ) : Pattern → Bool
  | .empty | .one _ | .lineStart | .many _ _ _ _ | .star _ => false
  | .seq first second => first.alwaysKeeps number || second.alwaysKeeps number
  | .alt first second => first.alwaysKeeps number && second.alwaysKeeps number
  | .group other body => other == number || body.alwaysKeeps number

/-- Groups are added in front; none is taken away. -/
theorem Matches.isSuffix_groups {p : Pattern} {start stop : Cursor} {before after : Groups}
    (h : p.Matches start before stop after) : before <:+ after := by
  induction h with
  | empty | one | lineStart | many | starStop => exact List.suffix_refl _
  | seq _ _ ihfirst ihsecond | starStep _ _ ihfirst ihsecond => exact ihfirst.trans ihsecond
  | altFirst _ _ ih | altSecond _ _ ih => exact ih
  | group _ _ ih => exact ih.trans (List.suffix_cons _ _)

/-- A group that every way through the pattern keeps is kept. -/
theorem Matches.exists_mem_of_alwaysKeeps {p : Pattern} {start stop : Cursor}
    {before after : Groups} {number : ℕ} (h : p.Matches start before stop after)
    (hkeeps : p.alwaysKeeps number = true) : ∃ span, (number, span) ∈ after := by
  induction h with
  | empty | one | lineStart | many | starStop | starStep => simp [alwaysKeeps] at hkeeps
  | seq _ hsecond ihfirst ihsecond =>
    rcases Bool.or_eq_true_iff.mp hkeeps with hfirst | hlast
    · obtain ⟨span, hspan⟩ := ihfirst hfirst
      exact ⟨span, hsecond.isSuffix_groups.subset hspan⟩
    · exact ihsecond hlast
  | altFirst _ _ ih => exact ih (Bool.and_eq_true_iff.mp hkeeps).1
  | altSecond _ _ ih => exact ih (Bool.and_eq_true_iff.mp hkeeps).2
  | group other _ ih =>
    rcases Bool.or_eq_true_iff.mp hkeeps with hnumber | hbody
    · obtain rfl := eq_of_beq hnumber
      exact ⟨_, List.mem_cons_self⟩
    · obtain ⟨span, hspan⟩ := ih hbody
      exact ⟨span, List.mem_cons_of_mem _ hspan⟩

/-- A match of a pattern that always keeps a group has the group. -/
theorem Matches.exists_lookup_of_alwaysKeeps {p : Pattern} {start stop : Cursor}
    {before groups : Groups} {number : ℕ} (h : p.Matches start before stop groups)
    (hkeeps : p.alwaysKeeps number = true) : ∃ span, groups.lookup number = some span := by
  obtain ⟨span, hspan⟩ := h.exists_mem_of_alwaysKeeps hkeeps
  have hsome : (groups.lookup number).isSome :=
    List.lookup_isSome_iff.mpr ⟨_, hspan, beq_self_eq_true number⟩
  exact Option.isSome_iff_exists.mp hsome

theorem exists_group?_of_alwaysKeeps {p : Pattern} {text : List Char} {found : Match} {number : ℕ}
    (h : p.search? text = some found) (hkeeps : p.alwaysKeeps number = true) :
    ∃ span, found.group? number = some span :=
  (matches_of_searchFrom? h).exists_lookup_of_alwaysKeeps hkeeps

/-- What a pattern captures that always keeps group 1 is accepted by a body of that group. -/
theorem exists_accepts_of_capture? {p : Pattern} {text : List Char} {candidate : String}
    (hkeeps : p.alwaysKeeps 1 = true) (h : p.capture? text = some candidate) :
    ∃ body, (1, body) ∈ p.keeps ∧ body.Accepts candidate.toList := by
  obtain ⟨found, hfound, rfl⟩ := Option.map_eq_some_iff.mp h
  obtain ⟨span, hspan⟩ := exists_group?_of_alwaysKeeps hfound hkeeps
  rw [hspan, Option.getD_some, String.toList_ofList]
  exact exists_accepts_of_group? hfound hspan

end Pattern

end PluginRecovery
