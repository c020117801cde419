import Mathlib
import PluginRecovery.Proofs.Text.LetterCase
import PluginRecovery.Url.Reference

/-!
How a text is cut that begins with a scheme. What counts of a text begins with all that is visible
at its front (`essential_append`), and a scheme is found again in front of a colon (`IsScheme`). So
the body of such a text begins with all that follows the scheme up to a sign of a query or a
fragment (`body_ofText`).
-/

set_option autoImplicit false
set_option relaxedAutoImplicit false

namespace PluginRecovery.Url

open PluginRecovery.Text

/-! ### What counts of a text -/

/-- The part of a text that counts begins with what is visible at its front, and goes on as the text
does or ends there. -/
theorem essential_append {front rest : List Char} (hne : front ≠ []) (hfront : ∀ c ∈ front, ' ' < c)
    (hrest : ∀ c ∈ rest.head?, ' ' ≤ c) :
    ∃ kept, essential (front ++ rest) = front ++ kept ∧ ∀ c ∈ kept.head?, c ∈ rest.head? := by
  let outer (c : Char) : Bool := c ≤ ' '
  let inner (c : Char) : Bool := c != '\t' && c != '\n' && c != '\r'
  have hinner (c : Char) (hc : ' ' ≤ c) : inner c = true := by
    simp only [inner, Bool.and_eq_true, bne_iff_ne]
    refine ⟨⟨?_, ?_⟩, ?_⟩
    all_goals
      rintro rfl
      exact absurd hc (by decide)
  have hself {text : List Char} (hne : text ≠ []) (htext : ∀ c ∈ text, ' ' < c) (more : List Char) :
      (text ++ more).dropWhile outer = text ++ more := by
    obtain ⟨c, text, rfl⟩ := List.exists_cons_of_ne_nil hne
    rw [List.cons_append, List.dropWhile_cons_of_neg]
    simpa [outer] using htext c List.mem_cons_self
  have hback : (front ++ rest).rdropWhile outer = front ++ rest.rdropWhile outer := by
    have hreverse := hself (List.reverse_ne_nil_iff.mpr hne)
      (fun c hc ↦ hfront c (List.mem_reverse.mp hc)) []
    rw [List.append_nil] at hreverse
    rw [List.rdropWhile, List.rdropWhile, List.reverse_append, List.dropWhile_append]
    split_ifs with hempty
    · rw [hreverse, List.isEmpty_iff.mp hempty, List.reverse_reverse, List.reverse_nil,
        List.append_nil]
    · rw [List.reverse_append, List.reverse_reverse]
  have hessential :
      essential (front ++ rest) = ((front ++ rest).rdropWhile outer).filter inner := by
    rw [essential, hself hne hfront]
    rfl
  refine ⟨(rest.rdropWhile outer).filter inner, ?_, ?_⟩
  · rw [hessential, hback, List.filter_append,
      List.filter_eq_self.mpr fun c hc ↦ hinner c (le_of_lt (hfront c hc))]
  · obtain ⟨dropped, hprefix⟩ := List.rdropWhile_prefix outer rest
    generalize rest.rdropWhile outer = kept at hprefix
    cases kept with
    | nil => simp
    | cons c kept =>
      subst hprefix
      rw [List.filter_cons_of_pos (hinner c (hrest c (by simp)))]
      exact fun d hd ↦ hd

/-! ### Schemes -/

/-- What a scheme is made of. -/
def inScheme (c : Char) : Bool :=
  c.isAlphanum || c == '+' || c == '-' || c == '.'

/-- A text that is read as the scheme in front of a colon. -/
structure IsScheme (scheme : String) : Prop where
  visible : ∀ c ∈ scheme.toList, ' ' < c
  splits : ∀ rest, splitScheme? (scheme.toList ++ ':' :: rest) = some (scheme, rest)

theorem toNat_lt_of_inScheme {c : Char} (h : inScheme c = true) : c.toNat < 128 := by
  rw [inScheme, Bool.or_eq_true, Bool.or_eq_true, Bool.or_eq_true, beq_iff_eq, beq_iff_eq,
    beq_iff_eq] at h
  rcases h with ((h | rfl) | rfl) | rfl
  · simp only [Char.isAlphanum, Char.isAlpha, Char.isUpper, Char.isLower, Char.isDigit,
      Bool.or_eq_true, Bool.and_eq_true, decide_eq_true_eq, ge_iff_le, UInt32.le_iff_toNat_le] at h
    change c.val.toNat < 128
    rcases h with (h | h) | h
    all_goals
      refine lt_of_le_of_lt h.2 ?_
      decide
  all_goals decide

theorem of_inScheme {c : Char} (h : inScheme c = true) :
    ' ' < c.toLower ∧ inScheme c.toLower = true ∧ c.toLower.toLower = c.toLower ∧
      c.toLower.isAlpha = c.isAlpha := by
  have hall : inScheme c = true → ' ' < c.toLower ∧ inScheme c.toLower = true ∧
      c.toLower.toLower = c.toLower ∧ c.toLower.isAlpha = c.isAlpha :=
    forall_of_ofNat (P := fun c ↦ inScheme c = true → ' ' < c.toLower ∧ inScheme c.toLower = true ∧
      c.toLower.toLower = c.toLower ∧ c.toLower.isAlpha = c.isAlpha) (by decide)
      (toNat_lt_of_inScheme h)
  exact hall h

/-- A scheme is the longest text at the front of the right characters; it begins with a letter, and
a colon follows. -/
theorem splitScheme?_eq_some_iff {text rest : List Char} {scheme : String} :
    splitScheme? text = some (scheme, rest) ↔ ∃ first others,
      text = first :: others ++ ':' :: rest ∧ first.isAlpha = true ∧
        (∀ c ∈ first :: others, inScheme c = true) ∧
          String.ofList ((first :: others).map Char.toLower) = scheme := by
  have hname : (fun c : Char ↦ c.isAlphanum || c == '+' || c == '-' || c == '.') = inScheme := rfl
  unfold splitScheme?
  rw [hname]
  dsimp only
  constructor
  · intro h
    split at h
    · next first others rest hwhile hdrop =>
      split_ifs at h with hfirst
      obtain ⟨rfl, rfl⟩ := Prod.mk.inj (Option.some.inj h)
      refine ⟨first, others, ?_, hfirst, fun c hc ↦ ?_, by rw [hwhile]⟩
      · rw [← hdrop, ← hwhile, List.prefix_iff_eq_append.mp (List.takeWhile_prefix _)]
      · exact List.mem_takeWhile_imp (hwhile ▸ hc)
    · exact absurd h (by simp)
  · rintro ⟨first, others, rfl, hfirst, hchars, rfl⟩
    have hwhile : (first :: others ++ ':' :: rest).takeWhile inScheme = first :: others := by
      rw [List.takeWhile_append_of_pos hchars, List.takeWhile_cons_of_neg (by decide),
        List.append_nil]
    rw [hwhile, List.drop_left]
    exact if_pos hfirst

/-- The scheme that was split off a text is one. -/
theorem isScheme_of_splitScheme? {text rest : List Char} {scheme : String}
    (h : splitScheme? text = some (scheme, rest)) : IsScheme scheme := by
  obtain ⟨first, others, -, hfirst, hchars, rfl⟩ := splitScheme?_eq_some_iff.mp h
  have hlower : ∀ c ∈ (first :: others).map Char.toLower,
      ' ' < c ∧ inScheme c = true ∧ c.toLower = c := by
    rw [List.forall_mem_map]
    exact fun c hc ↦
      have hof := of_inScheme (hchars c hc)
      ⟨hof.1, hof.2.1, hof.2.2.1⟩
  refine ⟨?_, fun rest ↦ splitScheme?_eq_some_iff.mpr ⟨first.toLower, others.map Char.toLower,
    ?_, ?_, fun c hc ↦ (hlower c hc).2.1, ?_⟩⟩
  · rw [String.toList_ofList]
    exact fun c hc ↦ (hlower c hc).1
  · rw [String.toList_ofList]
    rfl
  · rw [(of_inScheme (hchars first List.mem_cons_self)).2.2.2, hfirst]
  · rw [← List.map_cons, List.map_congr_left fun c hc ↦ (hlower c hc).2.2, List.map_id']

/-! ### Bodies -/

theorem fst_splitAtSign (sign : Char) (text : List Char) :
    (splitAtSign sign text).1 = text.takeWhile (· != sign) := by
  rw [splitAtSign]
  split
  · next hdrop =>
    have hself := List.takeWhile_append_dropWhile (p := (· != sign)) (l := text)
    rw [hdrop, List.append_nil] at hself
    exact hself.symm
  · rfl

/-- What is cut off as a scheme is one. -/
theorem isScheme_of_ofText {text : List Char} {scheme : String}
    (h : (Reference.ofText text).scheme = some scheme) : IsScheme scheme := by
  unfold Reference.ofText at h
  dsimp only at h
  split at h
  · next read rest hsplit =>
    obtain rfl := Option.some.inj h
    exact isScheme_of_splitScheme? hsplit
  · exact absurd h.symm (Option.some_ne_none scheme)

theorem ofText_of_splitScheme? {text rest : List Char} {scheme : String}
    (h : splitScheme? (essential text) = some (scheme, rest)) :
    (Reference.ofText text).scheme = some scheme ∧
      (Reference.ofText text).body = (rest.takeWhile (· != '#')).takeWhile (· != '?') := by
  unfold Reference.ofText
  rw [← fst_splitAtSign, ← fst_splitAtSign]
  simp only [h, and_self]

/-- The character is visible and begins neither a query nor a fragment. -/
def InBody (c : Char) : Prop :=
  ' ' < c ∧ c ≠ '?' ∧ c ≠ '#'

instance (c : Char) : Decidable (InBody c) :=
  inferInstanceAs (Decidable (_ ∧ _))

/-- The body of a text that begins with a scheme begins with what follows the scheme, up to a sign
of a query or a fragment. -/
theorem exists_body_ofText {scheme : String} (hscheme : IsScheme scheme) {front rest : List Char}
    (hfront : ∀ c ∈ front, InBody c) (hrest : ∀ c ∈ rest.head?, ' ' ≤ c) :
    ∃ more, (Reference.ofText (scheme.toList ++ ':' :: (front ++ rest))).scheme = some scheme ∧
      (Reference.ofText (scheme.toList ++ ':' :: (front ++ rest))).body = front ++ more ∧
        ∀ c ∈ more.head?, c ∈ rest.head? ∧ c ≠ '?' ∧ c ≠ '#' := by
  have hvisible : ∀ c ∈ scheme.toList ++ ':' :: front, ' ' < c :=
    List.forall_mem_append.mpr ⟨hscheme.visible, List.forall_mem_cons.mpr
      ⟨by decide, fun c hc ↦ (hfront c hc).1⟩⟩
  obtain ⟨kept, hkept, hhead⟩ := essential_append (by simp) hvisible hrest
  rw [List.append_assoc, List.append_assoc, List.cons_append, List.cons_append] at hkept
  obtain ⟨hread, hbody⟩ := ofText_of_splitScheme? (hkept ▸ hscheme.splits _)
  refine ⟨(kept.takeWhile (· != '#')).takeWhile (· != '?'), hread, ?_, ?_⟩
  · rw [hbody, List.takeWhile_append_of_pos fun c hc ↦ bne_iff_ne.mpr (hfront c hc).2.2,
      List.takeWhile_append_of_pos fun c hc ↦ bne_iff_ne.mpr (hfront c hc).2.1]
  · cases kept with
    | nil => simp
    | cons d kept =>
      intro c hc
      rw [List.takeWhile_cons] at hc
      split_ifs at hc with hfragment
      · rw [List.takeWhile_cons] at hc
        split_ifs at hc with hquery
        · obtain rfl := Option.some.inj hc
          exact ⟨hhead d rfl, bne_iff_ne.mp hquery, bne_iff_ne.mp hfragment⟩
        · exact absurd hc (by simp)
      · exact absurd hc (by simp)

/-- The body is all up to the query or the fragment. -/
theorem ofText_of_inBody {scheme : String} (hscheme : IsScheme scheme) {front rest : List Char}
    (hfront : ∀ c ∈ front, InBody c) (hrest : ∀ c ∈ rest.head?, c = '?' ∨ c = '#') :
    (Reference.ofText (scheme.toList ++ ':' :: (front ++ rest))).scheme = some scheme ∧
      (Reference.ofText (scheme.toList ++ ':' :: (front ++ rest))).body = front := by
  have hvisible : ∀ c ∈ rest.head?, ' ' ≤ c := by
    intro c hc
    rcases hrest c hc with rfl | rfl
    all_goals decide
  obtain ⟨more, hread, hbody, hmore⟩ := exists_body_ofText hscheme hfront hvisible
  have hnil : more = [] := by
    rw [← List.head?_eq_none_iff, Option.eq_none_iff_forall_not_mem]
    intro c hc
    obtain ⟨hmem, hquery, hfragment⟩ := hmore c hc
    exact (hrest c hmem).elim hquery hfragment
  exact ⟨hread, by rw [hbody, hnil, List.append_nil]⟩

end PluginRecovery.Url
