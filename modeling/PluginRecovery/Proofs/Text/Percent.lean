import Mathlib
import PluginRecovery.Proofs.Text.Ascii
import PluginRecovery.Proofs.Text.Encoding
import PluginRecovery.Text.Percent

/-!
Percent encoding. What is in an encoded text was kept or is in the encoding of a byte
(`mem_percentEncode`), and a text without percent signs is decoded as it is
(`decode_percentDecode_bytes`).
-/

set_option autoImplicit false
set_option relaxedAutoImplicit false

namespace PluginRecovery.Text

/-- The characters that encode bytes. -/
def escapeCharacters : List Char :=
  '%' :: (List.range 16).map upperHexDigit

theorem mem_percentEncode {kept : Char → Bool} {text : List Char} {c : Char}
    (h : c ∈ percentEncode kept text) : c ∈ text ∧ kept c = true ∨ c ∈ escapeCharacters := by
  obtain ⟨d, hd, hc⟩ := List.mem_flatMap.mp h
  split_ifs at hc with hkept
  · obtain rfl := List.mem_singleton.mp hc
    exact .inl ⟨hd, hkept⟩
  · obtain ⟨b, -, hc⟩ := List.mem_flatMap.mp hc
    have hb := b.toNat_lt
    have hdigit (n : ℕ) (hn : n < 16) : upperHexDigit n ∈ escapeCharacters :=
      List.mem_cons_of_mem _ (List.mem_map.mpr ⟨n, List.mem_range.mpr hn, rfl⟩)
    simp only [percentByte, List.mem_cons, List.not_mem_nil, or_false] at hc
    rcases hc with rfl | rfl | rfl
    · exact .inr List.mem_cons_self
    · exact .inr (hdigit _ (by omega))
    · exact .inr (hdigit _ (by omega))

/-- Where the characters that encode bytes are kept themselves, all that is written is kept. -/
theorem kept_of_mem_percentEncode {kept : Char → Bool}
    (hkept : ∀ c ∈ escapeCharacters, kept c = true) {text : List Char} :
    ∀ c ∈ percentEncode kept text, kept c = true :=
  fun c hc ↦ (mem_percentEncode hc).elim And.right (hkept c)

theorem head?_percentEncode (kept : Char → Bool) (c : Char) (rest : List Char) :
    (percentEncode kept (c :: rest)).head? = some (if kept c then c else '%') := by
  rw [percentEncode, List.flatMap_cons]
  split_ifs
  · rfl
  · obtain ⟨b, tail, hbytes, -⟩ := exists_utf8EncodeChar_eq_cons c
    rw [hbytes, List.flatMap_cons, percentByte]
    rfl

theorem percentEncode_ne_nil {kept : Char → Bool} {text : List Char} (h : text ≠ []) :
    percentEncode kept text ≠ [] := by
  obtain ⟨c, rest, rfl⟩ := List.exists_cons_of_ne_nil h
  intro hnil
  have hhead := head?_percentEncode kept c rest
  rw [hnil] at hhead
  exact Option.some_ne_none _ hhead.symm

theorem percentDecode_eq_self {data : List UInt8} (h : '%'.toUInt8 ∉ data) :
    percentDecode data = data := by
  fun_induction percentDecode data with
  | case1 b high low rest byte hescape =>
    rw [percentEscape?] at hescape
    split_ifs at hescape with hsign
    exact absurd (eq_of_beq hsign ▸ List.mem_cons_self) h
  | case2 b high low rest hescape ih => rw [ih fun hmem ↦ h (List.mem_cons_of_mem _ hmem)]
  | case3 text hshort => rfl

/-- A text without percent signs is decoded as it is. -/
theorem decode_percentDecode_bytes {text : List Char} (h : '%' ∉ text) :
    decode (percentDecode (bytes text)) = text := by
  rw [percentDecode_eq_self, decode_bytes]
  intro hmem
  obtain ⟨c, hc, hb⟩ := List.mem_flatMap.mp hmem
  obtain rfl := (toUInt8_mem_utf8EncodeChar_iff (by decide)).mp hb
  exact h hc

end PluginRecovery.Text
