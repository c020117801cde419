import Mathlib
import PluginRecovery.Proofs.Text.Percent
import PluginRecovery.Proofs.Url.Address
import PluginRecovery.Proofs.Url.Domain.Names
import PluginRecovery.Url.Authority

/-!
Hosts as they are written. The text of a host that was read is a `HostText`: nothing in it ends the
authority part of an address, and no colon in it begins a port. It is read again as it is written,
whether the scheme gives it a meaning (`of_namedHost?`) or not (`of_plainHost?`): a name within
ASCII is the form of itself, a dotted address ends in a number, and what is in brackets is an
address of eight pieces.
-/

set_option autoImplicit false
set_option relaxedAutoImplicit false

namespace PluginRecovery.Url

open PluginRecovery.Address PluginRecovery.Domain PluginRecovery.Text

/-! ### Texts of hosts -/

/-- What neither ends the authority part of an address nor is left out in reading it. -/
def inAuthority (c : Char) : Bool :=
  ' ' < c && ! ['/', '\\', '?', '#'].contains c

/-- A text that can be the host in an authority: no colon in it begins a port. -/
structure HostText (text : List Char) : Prop where
  chars : ∀ c ∈ text, inAuthority c = true ∧ c ≠ '@'
  closed : ∀ rest, splitPort false (text ++ rest) =
    (text ++ (splitPort false rest).1, (splitPort false rest).2)

/-- A text without brackets, and outside brackets without colons, has no port. -/
theorem splitPort_append {inside : Bool} {text : List Char}
    (h : ∀ c ∈ text, (c ≠ ':' ∨ inside = true) ∧ c ≠ '[' ∧ c ≠ ']') (rest : List Char) :
    splitPort inside (text ++ rest) =
      (text ++ (splitPort inside rest).1, (splitPort inside rest).2) := by
  induction text with
  | nil => rfl
  | cons c text ih =>
    obtain ⟨⟨hcolon, hopen, hclose⟩, htext⟩ := List.forall_mem_cons.mp h
    have hgo : (c == ':' && !inside) = false := by
      rcases hcolon with hcolon | rfl
      · rw [beq_false_of_ne hcolon, Bool.false_and]
      · rw [Bool.not_true, Bool.and_false]
    rw [List.cons_append, splitPort, hgo, beq_false_of_ne hopen, beq_false_of_ne hclose]
    simp [ih htext]

/-- A text without colons and brackets can be a host. -/
theorem hostText_of_forall {text : List Char}
    (h : ∀ c ∈ text, inAuthority c = true ∧ c ∉ ['@', ':', '[', ']']) : HostText text where
  chars c hc := ⟨(h c hc).1, fun heq ↦ (h c hc).2 (by simp [heq])⟩
  closed := splitPort_append fun c hc ↦ by
    have hsigns := (h c hc).2
    simp only [List.mem_cons, not_or] at hsigns
    exact ⟨.inl hsigns.2.1, hsigns.2.2.1, hsigns.2.2.2.1⟩

/-- A text in brackets can be a host. -/
theorem hostText_bracketed {text : List Char}
    (h : ∀ c ∈ text, inAuthority c = true ∧ c ∉ ['@', '[', ']']) :
    HostText ('[' :: text ++ [']']) where
  chars := by
    simp only [List.cons_append, List.forall_mem_cons, List.forall_mem_append]
    refine ⟨by decide, fun c hc ↦ ⟨(h c hc).1, fun heq ↦ (h c hc).2 (by simp [heq])⟩, by decide,
      List.forall_mem_nil _⟩
  closed rest := by
    have hinside : splitPort true (text ++ ']' :: rest) =
        (text ++ (splitPort true (']' :: rest)).1, (splitPort true (']' :: rest)).2) := by
      refine splitPort_append (fun c hc ↦ ?_) _
      have hsigns := (h c hc).2
      simp only [List.mem_cons, not_or] at hsigns
      exact ⟨.inr rfl, hsigns.2.1, hsigns.2.2.1⟩
    rw [List.cons_append, List.cons_append, List.append_assoc, List.singleton_append, splitPort]
    simp [hinside, splitPort]

/-! ### Hosts in brackets -/

/-- What is in brackets is an address of eight pieces, which is read again as it is written. -/
theorem of_bracketed? {text : List Char} {host : Host} (h : bracketed? text = .ok host) :
    ∃ pieces, host = .ipv6 pieces ∧
      ∃ again, bracketed? ((ipv6Text pieces).toList ++ [']']) = .ok again := by
  rw [bracketed?] at h
  split at h
  · next pieces hlast hpieces =>
    obtain rfl := (Except.ok.inj h).symm
    obtain ⟨hlength, hbounds⟩ := of_ipv6? hpieces
    obtain ⟨again, hagain⟩ := exists_ipv6?_ipv6Text hlength hbounds
    refine ⟨pieces, rfl, .ipv6 again, ?_⟩
    rw [bracketed?, List.getLast?_append_of_ne_nil _ (List.cons_ne_nil _ _), List.dropLast_concat,
      hagain]
    rfl
  · exact absurd h (by simp)

theorem toList_text_ipv6 (pieces : List ℕ) :
    (Host.ipv6 pieces).text.toList = '[' :: (ipv6Text pieces).toList ++ [']'] := by
  have hopen : "[".toList = ['['] := String.toList_ofList
  have hclose : "]".toList = [']'] := String.toList_ofList
  rw [Host.text, String.toList_append, String.toList_append, hopen, hclose]
  rfl

/-- A host of pieces is written as the text of a host. -/
theorem hostText_ipv6 (pieces : List ℕ) : HostText (Host.ipv6 pieces).text.toList := by
  rw [toList_text_ipv6]
  refine hostText_bracketed fun c hc ↦ ?_
  rcases of_mem_ipv6Text hc with rfl | hc
  · decide
  · have hhex : isHexDigit c = true → inAuthority c = true ∧ c ∉ ['@', '[', ']'] :=
      forall_of_ofNat
        (P := fun c ↦ isHexDigit c = true → inAuthority c = true ∧ c ∉ ['@', '[', ']'])
        (by decide) (toNat_lt_of_isHexDigit hc)
    exact hhex hc

theorem text_ne_empty {host : Host} (h : host.text.toList ≠ []) : host.text ≠ "" :=
  fun heq ↦ h (heq ▸ rfl)

/-! ### Hosts without a meaning -/

/-- What is not in a host that is only encoded. -/
def plainForbidden : List Char :=
  ['\x00', ' ', '#', '/', ':', '<', '>', '?', '@', '[', '\\', ']', '^', '|']

theorem of_mem_encodedHost {text : List Char} (htext : text.any plainForbidden.contains = false) :
    ∀ c ∈ percentEncode isPlain text, isPlain c = true ∧ c ∉ plainForbidden := by
  intro c hc
  rcases mem_percentEncode hc with ⟨hmem, hplain⟩ | hc
  · refine ⟨hplain, fun hforbidden ↦ List.any_eq_false.mp htext c hmem ?_⟩
    exact List.contains_iff_mem.mpr hforbidden
  · have hescape :
        (escapeCharacters.all fun c ↦ isPlain c && !plainForbidden.contains c) = true := by decide
    simpa using List.all_eq_true.mp hescape c hc

theorem toNat_lt_of_isPlain {c : Char} (h : isPlain c = true) : c.toNat < 128 := by
  rw [isPlain, Bool.and_eq_true, decide_eq_true_eq, decide_eq_true_eq, Char.lt_def,
    UInt32.lt_iff_toNat_lt] at h
  exact lt_trans h.2 (by decide)

theorem inAuthority_of_not_mem_plainForbidden {c : Char} (hplain : isPlain c = true)
    (h : c ∉ plainForbidden) : inAuthority c = true ∧ c ∉ ['@', ':', '[', ']'] := by
  have hall : isPlain c = true → c ∉ plainForbidden →
      inAuthority c = true ∧ c ∉ ['@', ':', '[', ']'] :=
    forall_of_ofNat (P := fun c ↦ isPlain c = true → c ∉ plainForbidden →
      inAuthority c = true ∧ c ∉ ['@', ':', '[', ']']) (by decide) (toNat_lt_of_isPlain hplain)
  exact hall hplain h

/-- A host that is only encoded can be a host, and is read again as it is written. -/
theorem of_plainHost? {text : List Char} {host : Host} (h : plainHost? text = .ok host) :
    HostText host.text.toList ∧ (text ≠ [] → host.text ≠ "") ∧
      ∃ again, plainHost? host.text.toList = .ok again := by
  unfold plainHost? at h
  split at h
  · obtain ⟨pieces, rfl, again, hagain⟩ := of_bracketed? h
    refine ⟨hostText_ipv6 pieces, fun _ ↦ text_ne_empty ?_, again, ?_⟩
    · rw [toList_text_ipv6]
      exact List.cons_ne_nil _ _
    · rw [toList_text_ipv6]
      exact hagain
  · dsimp only at h
    split_ifs at h with hforbidden
    obtain rfl := Except.ok.inj h
    have hchars : ∀ c ∈ percentEncode isPlain text, isPlain c = true ∧ c ∉ plainForbidden :=
      of_mem_encodedHost (Bool.eq_false_iff.mpr hforbidden)
    have htext : (Host.name (String.ofList (percentEncode isPlain text))).text.toList =
        percentEncode isPlain text := String.toList_ofList
    refine ⟨?_, fun hne ↦ text_ne_empty ?_, ?_⟩
    · rw [htext]
      exact hostText_of_forall fun c hc ↦
        inAuthority_of_not_mem_plainForbidden (hchars c hc).1 (hchars c hc).2
    · rw [htext]
      exact percentEncode_ne_nil hne
    · rw [htext]
      unfold plainHost?
      split
      · next rest heq =>
        exact absurd (by decide) (hchars '[' (heq ▸ List.mem_cons_self)).2
      · refine ⟨_, if_neg ?_⟩
        rw [List.any_eq_true]
        rintro ⟨c, hc, hforbidden⟩
        exact (hchars c hc).2 (List.contains_iff_mem.mp hforbidden)

/-! ### Hosts with a meaning -/

theorem directionsFit_of_ascii {labels : List (List Char)}
    (h : ∀ label ∈ labels, ∀ c ∈ label, c.toNat < 128) : directionsFit labels = true := by
  have hdirection : ∀ c : Char, c.toNat < 128 →
      [Direction.rightToLeft, .arabicNumber].contains (traitOf c).direction = false := by
    intro c hc
    rw [traitOf, if_pos hc]
    dsimp only
    split_ifs <;> rfl
  rw [directionsFit, Bool.or_eq_true, Bool.not_eq_true']
  refine .inl ?_
  simp only [List.any_map, List.any_eq_false, Function.comp_apply, Bool.not_eq_true]
  exact fun label hlabel c hc ↦ hdirection c (h label hlabel c hc)

/-- An address of four bytes stays as it is when it is read as a name. -/
theorem ascii?_ipv4Text (address : ℕ) :
    ascii? (ipv4Text address).toList = some (ipv4Text address).toList := by
  have hdigit (c : Char) (h : c.isDigit = true) :
      c.toNat < 128 ∧ c.isUpper = false ∧ c ≠ '.' ∧ isForbidden c = false ∧ c ≠ 'x' := by
    have hascii : c.toNat < 128 := toNat_lt_of_isHexDigit (by rw [isHexDigit, h, Bool.true_or])
    have hall : c.isDigit = true → c.isUpper = false ∧ c ≠ '.' ∧ isForbidden c = false ∧ c ≠ 'x' :=
      forall_of_ofNat (P := fun c ↦ c.isDigit = true →
        c.isUpper = false ∧ c ≠ '.' ∧ isForbidden c = false ∧ c ≠ 'x') (by decide) hascii
    exact ⟨hascii, hall h⟩
  have hlabels {label : List Char} (hlabel : label ∈ byteLabels address) {c : Char}
      (hc : c ∈ label) := hdigit c ((isDigit_of_mem_byteLabels hlabel).2 c hc)
  have hmark : encodedMark = ['x', 'n', '-', '-'] := String.toList_ofList
  have hmeaning : ∀ label ∈ byteLabels address, meaning? label = some label := by
    intro label hlabel
    refine if_neg fun hprefix ↦ ?_
    have hx : 'x' ∈ label :=
      (List.isPrefixOf_iff_prefix.mp hprefix).subset (hmark ▸ List.mem_cons_self)
    exact (hlabels hlabel hx).2.2.2.2 rfl
  have hname : isName (byteLabels address) = true := by
    have hself : (byteLabels address).mapM meaning? = some (byteLabels address) :=
      Script.mapM_eq_some_of_forall₂ (List.forall₂_same.mpr hmeaning)
    rw [isName, hself, Option.any_some, directionsFit_of_ascii fun label hlabel c hc ↦
      (hlabels hlabel hc).1, Bool.and_true, Bool.not_eq_true', List.any_eq_false]
    exact fun label hlabel ↦ Bool.not_eq_true _ ▸ List.any_eq_false.mpr fun c hc ↦
      Bool.not_eq_true _ ▸ (hlabels hlabel hc).2.2.2.1
  rw [toList_ipv4Text, ascii?_intercalate (by simp [byteLabels]) fun label hlabel c hc ↦
    ⟨(hlabels hlabel hc).1, (hlabels hlabel hc).2.1, (hlabels hlabel hc).2.2.1⟩, if_pos hname]

/-- What is in a name within ASCII can be in an authority, and is no sign of one. -/
theorem inAuthority_of_not_isForbidden {c : Char} (hascii : c.toNat < 128)
    (h : isForbidden c = false) : inAuthority c = true ∧ c ∉ ['@', ':', '[', ']'] ∧ c ≠ '%' := by
  have hall : isForbidden c = false → inAuthority c = true ∧ c ∉ ['@', ':', '[', ']'] ∧ c ≠ '%' :=
    forall_of_ofNat (P := fun c ↦ isForbidden c = false →
      inAuthority c = true ∧ c ∉ ['@', ':', '[', ']'] ∧ c ≠ '%') (by decide) hascii
  exact hall h

theorem hostText_of_form {form : List Char} (hform : ascii? form = some form) : HostText form :=
  hostText_of_forall fun c hc ↦
    have h :=
      inAuthority_of_not_isForbidden (of_mem_ascii? hform c hc).1 (of_mem_ascii? hform c hc).2
    ⟨h.1, h.2.1⟩

/-- A text that is the form of itself is read as a name or a dotted address. -/
theorem namedHost?_of_form {form : List Char} (hform : ascii? form = some form) (hne : form ≠ []) :
    namedHost? form = if endsInNumber form then
      (match ipv4? form with
      | some address => .ok (.ipv4 address)
      | none => .error .invalidIpv4)
      else .ok (.name (String.ofList form)) := by
  have hchars := fun c hc ↦
    inAuthority_of_not_isForbidden (of_mem_ascii? hform c hc).1 (of_mem_ascii? hform c hc).2
  unfold namedHost?
  split
  · exact absurd (by simp) (hchars '[' List.mem_cons_self).2.1
  · rw [decode_percentDecode_bytes fun hmem ↦ (hchars '%' hmem).2.2 rfl, hform]
    cases form with
    | nil => exact absurd rfl hne
    | cons c rest => rfl

/-- A host with a meaning can be a host, and is read again as it is written. -/
theorem of_namedHost? {text : List Char} {host : Host} (h : namedHost? text = .ok host) :
    HostText host.text.toList ∧ host.text ≠ "" ∧
      ∃ again, namedHost? host.text.toList = .ok again := by
  unfold namedHost? at h
  split at h
  · obtain ⟨pieces, rfl, again, hagain⟩ := of_bracketed? h
    refine ⟨hostText_ipv6 pieces, text_ne_empty ?_, again, ?_⟩
    · rw [toList_text_ipv6]
      exact List.cons_ne_nil _ _
    · rw [toList_text_ipv6]
      exact hagain
  · split at h
    · exact absurd h (by simp)
    · exact absurd h (by simp)
    · next name hne hname =>
      split_ifs at h with hnumber
      · split at h
        · next address _ =>
          obtain rfl := Except.ok.inj h
          have hnotEmpty : (ipv4Text address).toList ≠ [] := by
            intro heq
            have hnumber := endsInNumber_ipv4Text address
            rw [heq] at hnumber
            exact absurd hnumber (by decide)
          obtain ⟨again, hagain⟩ := exists_ipv4?_ipv4Text address
          refine ⟨hostText_of_form (ascii?_ipv4Text address), text_ne_empty hnotEmpty,
            .ipv4 again, ?_⟩
          rw [Host.text, namedHost?_of_form (ascii?_ipv4Text address) hnotEmpty,
            if_pos (endsInNumber_ipv4Text address), hagain]
        · exact absurd h (by simp)
      · obtain rfl := Except.ok.inj h
        have htext : (Host.name (String.ofList name)).text.toList = name := String.toList_ofList
        have hnotEmpty : name ≠ [] := fun heq ↦ hne heq
        refine ⟨?_, text_ne_empty (htext.symm ▸ hnotEmpty), .name (String.ofList name), ?_⟩
        · rw [htext]
          exact hostText_of_form (ascii?_of_ascii? hname)
        · rw [htext, namedHost?_of_form (ascii?_of_ascii? hname) hnotEmpty, if_neg hnumber]

end PluginRecovery.Url
