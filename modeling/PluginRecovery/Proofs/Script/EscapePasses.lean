import Mathlib
import PluginRecovery.Proofs.Dictionary
import PluginRecovery.Proofs.Script.Escapes
import PluginRecovery.Text.Replace

/-!
The passes that replace escapes, and one pass that replaces them all. The pass for a letter replaces
the backslash with that letter wherever it occurs (`replaceEscape_eq_replaceAll`). Behind a pass for
the letters of a table it makes of it a pass for one letter more (`replaceEscape_replaceEscapes`),
as long as no meaning in the table is that letter or a backslash, so that no escape is made on the
way. So passes in such an order are one pass (`foldl_replaceEscape`). What a pass leaves has the
escapes of other letters where the text has them, each between what is left of its surroundings
(`replaceEscape_append_escape`, `exists_of_replaceEscape_eq`). `unescape_eq_replaceEscapes` puts
this together. It holds of every text, also where one backslash follows another: the one pass copies
the first of the two, and the second may begin an escape.
-/

set_option autoImplicit false
set_option relaxedAutoImplicit false

namespace PluginRecovery.Script

open PluginRecovery.Text

variable {letter meaning : Char} {text : List Char}

/-! ### One pass for a letter -/

/-- What begins no escape is another character than a backslash, or a backslash at the end. -/
theorem ne_or_last_of_no_escape {c : Char} {rest : List Char}
    (h : ∀ d tail, c = '\\' → rest = d :: tail → False) :
    c ≠ '\\' ∨ c = '\\' ∧ rest = [] := by
  by_cases hc : c = '\\'
  · cases rest with
    | nil => exact .inr ⟨hc, rfl⟩
    | cons d tail => exact (h d tail hc rfl).elim
  · exact .inl hc

@[simp] theorem replaceEscape_last (letter meaning : Char) :
    replaceEscape letter meaning ['\\'] = ['\\'] := by
  rw [replaceEscape, replaceEscape]
  exact fun c rest _ hrest ↦ absurd hrest (List.cons_ne_nil c rest).symm

/-- A backslash is copied when the letter is not behind it. -/
theorem replaceEscape_backslash (h : text.head? ≠ some letter) :
    replaceEscape letter meaning ('\\' :: text) = '\\' :: replaceEscape letter meaning text := by
  cases text with
  | nil => rw [replaceEscape_last, replaceEscape]
  | cons c rest =>
    have hc : c ≠ letter := fun heq ↦ h (congrArg some heq)
    rw [replaceEscape, if_neg hc]

/-- Where no occurrence begins the character is kept. -/
theorem replaceFrom_of_not_isPrefix {c : Char} {rest part : List Char} (new : List Char)
    (h : ¬ part <+: c :: rest) :
    replaceFrom part new 0 (c :: rest) = c :: replaceFrom part new 0 rest := by
  rw [replaceFrom, if_neg (by simpa using h)]

/-- The pass for a letter replaces the backslash with that letter wherever it occurs. -/
theorem replaceEscape_eq_replaceAll (letter meaning : Char) (text : List Char) :
    replaceEscape letter meaning text = replaceAll ['\\', letter] [meaning] text := by
  unfold replaceAll
  fun_induction replaceEscape letter meaning text with
  | case1 => rfl
  | case2 rest ih =>
    rw [ih, replaceFrom, if_pos (by simp)]
    rfl
  | case3 c rest hc ih =>
    have hprefix : ¬ ['\\', letter] <+: '\\' :: c :: rest := by
      simpa using Ne.symm hc
    rw [ih]
    exact (replaceFrom_of_not_isPrefix [meaning] hprefix).symm
  | case4 c rest hescape ih =>
    rw [ih, replaceFrom_of_not_isPrefix]
    intro hprefix
    obtain ⟨rfl, after, rfl⟩ := List.cons_prefix_cons.mp hprefix
    exact hescape letter after rfl rfl

/-! ### One pass for a table of letters -/

/-- The letters that stand for another character behind a backslash, and what they stand for, in the
order of the passes. -/
def escapes : List (Char × Char) :=
  [('n', '\n'), ('t', '\t'), ('"', '"'), ('\'', '\'')]

/-- From left to right, each backslash with a letter of the table behind it as what the letter
stands for, and everything else as it is. -/
def replaceEscapes (table : List (Char × Char)) : List Char → List Char
  | [] => []
  | '\\' :: c :: rest =>
    match table.lookup c with
    | some meaning => meaning :: replaceEscapes table rest
    | none => '\\' :: replaceEscapes table (c :: rest)
  | c :: rest => c :: replaceEscapes table rest

/-- A character that is no backslash is kept. -/
theorem replaceEscapes_cons {c : Char} (hc : c ≠ '\\') (table : List (Char × Char))
    (rest : List Char) :
    replaceEscapes table (c :: rest) = c :: replaceEscapes table rest := by
  rw [replaceEscapes]
  rintro next tail rfl
  exact absurd rfl hc

/-- A backslash at the end of the text is kept. -/
@[simp] theorem replaceEscapes_last (table : List (Char × Char)) :
    replaceEscapes table ['\\'] = ['\\'] := by
  rw [replaceEscapes, replaceEscapes]
  exact fun c rest _ hrest ↦ absurd hrest (List.cons_ne_nil c rest).symm

/-- Without letters nothing is replaced. -/
theorem replaceEscapes_nil (text : List Char) : replaceEscapes [] text = text := by
  fun_induction replaceEscapes [] text with
  | case1 => rfl
  | case2 c rest meaning hmeaning => exact absurd hmeaning (by simp)
  | case3 c rest _ ih => rw [ih]
  | case4 c rest _ ih => rw [ih]

/-- What a pass leaves of a text begins as the text does, or with a meaning. -/
theorem head?_replaceEscapes_ne {table : List (Char × Char)}
    (htable : ∀ entry ∈ table, entry.2 ≠ letter) (h : text.head? ≠ some letter) :
    (replaceEscapes table text).head? ≠ some letter := by
  fun_cases replaceEscapes table text with
  | case1 => exact h
  | case2 c rest d hlookup =>
    exact fun hd ↦ htable (c, d) (Dictionary.mem_of_lookup hlookup) (Option.some.inj hd)
  | case3 c rest _ => exact h
  | case4 c rest _ => exact h

/-- A pass for one letter behind a pass for a table is a pass for the table with the letter. -/
theorem replaceEscape_replaceEscapes {table : List (Char × Char)}
    (htable : ∀ entry ∈ table, entry.2 ≠ '\\' ∧ entry.2 ≠ letter) (hletter : letter ≠ '\\')
    (meaning : Char) (text : List Char) :
    replaceEscape letter meaning (replaceEscapes table text) =
      replaceEscapes (table ++ [(letter, meaning)]) text := by
  fun_induction replaceEscapes table text with
  | case1 => simp [replaceEscapes, replaceEscape]
  | case2 c rest d hlookup ih =>
    have hd : d ≠ '\\' := (htable (c, d) (Dictionary.mem_of_lookup hlookup)).1
    have hboth : (table ++ [(letter, meaning)]).lookup c = some d := by
      rw [List.lookup_append, hlookup, Option.some_or]
    rw [replaceEscape_cons hd, ih, replaceEscapes, hboth]
  | case3 c rest hlookup ih =>
    by_cases hc : c = letter
    · subst c
      have hboth : (table ++ [(letter, meaning)]).lookup letter = some meaning := by
        rw [List.lookup_append, hlookup, Option.none_or, List.lookup_cons_self]
      rw [replaceEscapes_cons hletter, replaceEscape_cons hletter,
        replaceEscapes_cons hletter] at ih
      rw [replaceEscapes_cons hletter, replaceEscape, if_pos rfl, (List.cons.inj ih).2,
        replaceEscapes, hboth]
    · have hboth : (table ++ [(letter, meaning)]).lookup c = none := by
        have hbeq : (c == letter) = false := beq_false_of_ne hc
        rw [List.lookup_append, hlookup, Option.none_or, List.lookup_cons, hbeq, List.lookup_nil]
      have hhead := head?_replaceEscapes_ne (fun entry hentry ↦ (htable entry hentry).2)
        (show (c :: rest).head? ≠ some letter by simpa using hc)
      rw [replaceEscape_backslash hhead, ih, replaceEscapes.eq_2, hboth]
  | case4 c rest hescape ih =>
    obtain hc | ⟨rfl, rfl⟩ := ne_or_last_of_no_escape hescape
    · rw [replaceEscape_cons hc, replaceEscapes_cons hc, ih]
    · rw [replaceEscapes_last, replaceEscapes, replaceEscape_last]

/-- Passes one after the other are one pass for all of their letters, when no letter or backslash is
what a letter before it stands for. -/
theorem foldl_replaceEscape {table : List (Char × Char)}
    (hletters : ∀ entry ∈ table, entry.1 ≠ '\\' ∧ entry.2 ≠ '\\')
    (horder : table.Pairwise fun entry later ↦ entry.2 ≠ later.1) (text : List Char) :
    table.foldl (fun left entry ↦ replaceEscape entry.1 entry.2 left) text =
      replaceEscapes table text := by
  induction table using List.reverseRecOn with
  | nil => exact (replaceEscapes_nil text).symm
  | append_singleton table entry ih =>
    obtain ⟨hfront, hentry⟩ := List.forall_mem_append.mp hletters
    obtain ⟨hpairs, -, hlast⟩ := List.pairwise_append.mp horder
    rw [List.foldl_append, ih hfront hpairs]
    refine replaceEscape_replaceEscapes (fun other hother ↦ ⟨(hfront other hother).2, ?_⟩)
      (hentry entry List.mem_cons_self).1 entry.2 text
    exact hlast other hother entry List.mem_cons_self

/-! ### The escapes of other letters -/

/-- A pass works on each part of a text by itself, unless its letter begins the second one. -/
theorem replaceEscape_append (front : List Char) {back : List Char}
    (h : back.head? ≠ some letter) :
    replaceEscape letter meaning (front ++ back) =
      replaceEscape letter meaning front ++ replaceEscape letter meaning back := by
  fun_induction replaceEscape letter meaning front with
  | case1 => rfl
  | case2 rest ih =>
    rw [List.cons_append, List.cons_append, replaceEscape, if_pos rfl, ih, List.cons_append]
  | case3 c rest hc ih =>
    rw [List.cons_append, List.cons_append, replaceEscape, if_neg hc, ← List.cons_append, ih,
      List.cons_append]
  | case4 c rest hescape ih =>
    obtain hc | ⟨rfl, rfl⟩ := ne_or_last_of_no_escape hescape
    · rw [List.cons_append, replaceEscape_cons hc, ih, List.cons_append]
    · rw [List.singleton_append, replaceEscape_backslash h, replaceEscape]
      rfl

/-- What a pass leaves of an escape of another letter is that escape, between what it leaves of the
rest. -/
theorem replaceEscape_append_escape {other : Char} (hletter : letter ≠ '\\') (hother : other ≠ '\\')
    (hne : other ≠ letter) (before after : List Char) :
    replaceEscape letter meaning (before ++ '\\' :: other :: after) =
      replaceEscape letter meaning before ++
        '\\' :: other :: replaceEscape letter meaning after := by
  rw [replaceEscape_append before (by simpa using Ne.symm hletter),
    replaceEscape_backslash (by simpa using hne), replaceEscape_cons hother]

/-- What a pass leaves begins as the text does, or with a backslash or the meaning. -/
theorem exists_cons_of_replaceEscape_eq_cons {d : Char} {back : List Char}
    (hd : d ≠ '\\' ∧ d ≠ meaning) (h : replaceEscape letter meaning text = d :: back) :
    ∃ after, text = d :: after ∧ replaceEscape letter meaning after = back := by
  fun_cases replaceEscape letter meaning text with
  | case1 => exact absurd h (by simp [replaceEscape])
  | case2 rest =>
    rw [replaceEscape, if_pos rfl] at h
    exact absurd (List.cons.inj h).1.symm hd.2
  | case3 c rest hc =>
    rw [replaceEscape, if_neg hc] at h
    exact absurd (List.cons.inj h).1.symm hd.1
  | case4 c rest hescape =>
    rw [replaceEscape.eq_3 _ _ _ _ hescape] at h
    obtain ⟨rfl, hafter⟩ := List.cons.inj h
    exact ⟨rest, rfl, hafter⟩

/-- What a pass leaves has the escape of another letter only where the text has it. -/
theorem exists_of_replaceEscape_eq {other : Char} {front back : List Char}
    (hmeaning : meaning ≠ '\\') (hother : other ≠ '\\' ∧ other ≠ meaning)
    (h : replaceEscape letter meaning text = front ++ '\\' :: other :: back) :
    ∃ before after, text = before ++ '\\' :: other :: after ∧
      replaceEscape letter meaning before = front ∧
      replaceEscape letter meaning after = back := by
  fun_induction replaceEscape letter meaning text generalizing front with
  | case1 => simp at h
  | case2 rest ih =>
    cases front with
    | nil => exact absurd (List.cons.inj h).1 hmeaning
    | cons d front =>
      obtain ⟨rfl, hrest⟩ := List.cons.inj h
      obtain ⟨before, after, rfl, rfl, hafter⟩ := ih hrest
      refine ⟨'\\' :: letter :: before, after, rfl, ?_, hafter⟩
      rw [replaceEscape, if_pos rfl]
  | case3 c rest hc ih =>
    cases front with
    | nil =>
      obtain ⟨after, hrest, hafter⟩ :=
        exists_cons_of_replaceEscape_eq_cons hother (List.cons.inj h).2
      exact ⟨[], after, congrArg _ hrest, by rw [replaceEscape], hafter⟩
    | cons d front =>
      obtain ⟨rfl, hrest⟩ := List.cons.inj h
      obtain ⟨before, after, htext, rfl, hafter⟩ := ih hrest
      refine ⟨'\\' :: before, after, congrArg _ htext, replaceEscape_backslash ?_, hafter⟩
      cases before with
      | nil => simp
      | cons e before =>
        obtain ⟨rfl, -⟩ := List.cons.inj htext
        simpa using hc
  | case4 c rest hescape ih =>
    obtain hc | ⟨rfl, rfl⟩ := ne_or_last_of_no_escape hescape
    · cases front with
      | nil => exact absurd (List.cons.inj h).1 hc
      | cons d front =>
        obtain ⟨rfl, hrest⟩ := List.cons.inj h
        obtain ⟨before, after, rfl, rfl, hafter⟩ := ih hrest
        exact ⟨c :: before, after, rfl, replaceEscape_cons hc letter meaning before, hafter⟩
    · have hlength := congrArg List.length h
      simp [replaceEscape] at hlength
      omega

/-- The passes, each of which replaces a backslash and a letter everywhere, are one pass from left
to right that replaces what each of them does. Of any two passes the earlier one leaves the escapes
of the later one as they are: what it leaves has them where the text has them, and there alone. -/
theorem unescape_eq_replaceEscapes (text : List Char) :
    unescape text =
        escapes.foldl (fun left escape ↦ replaceAll ['\\', escape.1] [escape.2] left) text ∧
      unescape text = replaceEscapes escapes text ∧
      escapes.Pairwise fun escape later ↦ ∀ front back : List Char,
        replaceEscape escape.1 escape.2 text = front ++ '\\' :: later.1 :: back ↔
          ∃ before after, text = before ++ '\\' :: later.1 :: after ∧
            replaceEscape escape.1 escape.2 before = front ∧
            replaceEscape escape.1 escape.2 after = back := by
  have hletters : ∀ escape ∈ escapes, escape.1 ≠ '\\' ∧ escape.2 ≠ '\\' := by decide
  have horder : escapes.Pairwise fun escape later ↦ escape.2 ≠ later.1 := by decide
  have hdistinct : escapes.Pairwise fun escape later ↦ later.1 ≠ escape.1 := by decide
  refine ⟨?_, foldl_replaceEscape hletters horder text, ?_⟩
  · simp only [← replaceEscape_eq_replaceAll]
    rfl
  · refine (hdistinct.and horder).imp_of_mem ?_
    rintro escape later hescape hlater ⟨hne, hmeaning⟩ front back
    constructor
    · exact exists_of_replaceEscape_eq (hletters escape hescape).2
        ⟨(hletters later hlater).1, hmeaning.symm⟩
    · rintro ⟨before, after, rfl, rfl, rfl⟩
      exact replaceEscape_append_escape (hletters escape hescape).1 (hletters later hlater).1 hne
        before after

end PluginRecovery.Script
