import Mathlib
import PluginRecovery.Proofs.Script.ValueReading
import PluginRecovery.Proofs.Text.Separation
import PluginRecovery.Url.Address

/-!
Numeric hosts as they are written. The notation of an address of four bytes is read as such an
address (`exists_ipv4?_ipv4Text`). What is read from a colon notation are eight pieces of two bytes
each (`of_ipv6?`), and the notation of such pieces is read again (`exists_ipv6?_ipv6Text`).
-/

set_option autoImplicit false
set_option relaxedAutoImplicit false

namespace PluginRecovery.Address

open PluginRecovery.Text

/-! ### Digits -/

theorem digitValue?_digitChar {base : ℕ} (hbase : base ≤ 16) {digit : ℕ} (h : digit < base) :
    digitValue? base digit.digitChar = some digit := by
  have hvalue : ∀ d < 16, digitValue? 16 d.digitChar = some d := by decide
  have hdigit := hvalue digit (h.trans_le hbase)
  rw [digitValue?, Option.filter_eq_some_iff] at hdigit ⊢
  exact ⟨hdigit.1, decide_eq_true h⟩

theorem lt_of_digitValue? {base : ℕ} {c : Char} {digit : ℕ} (h : digitValue? base c = some digit) :
    digit < base :=
  of_decide_eq_true (Option.filter_eq_some_iff.mp h).2

/-- The digits of a number are read as that number. -/
theorem digitsValue?_toDigits {base : ℕ} (hone : 1 < base) (hbase : base ≤ 16) (n : ℕ) :
    digitsValue? base (Nat.toDigits base n) = some n := by
  induction n using Nat.strong_induction_on with
  | h n ih =>
    by_cases hn : n < base
    · rw [Nat.toDigits_of_lt_base hn, digitsValue?]
      simp [digitValue?_digitChar hbase hn]
    · have hlast := digitValue?_digitChar hbase (Nat.mod_lt n (show base > 0 by omega))
      have hfront := ih (n / base) (Nat.div_lt_self (by omega) hone)
      rw [digitsValue?] at hfront ⊢
      rw [Nat.toDigits_of_base_le hone (Nat.le_of_not_lt hn), List.foldlM_append, hfront]
      simp only [List.foldlM_cons, List.foldlM_nil, Option.bind_eq_bind, Option.bind_some, hlast,
        Option.pure_def, Nat.div_add_mod']

/-- Digits write less than the base to the power of their number. -/
theorem digitsValue?_lt {base : ℕ} {digits : List Char} {n : ℕ}
    (h : digitsValue? base digits = some n) :
    n < base ^ digits.length := by
  induction digits using List.reverseRecOn generalizing n with
  | nil =>
    obtain rfl := Option.some.inj h
    simp
  | append_singleton digits c ih =>
    rw [digitsValue?, List.foldlM_append] at h
    obtain ⟨value, hvalue, h⟩ := Option.bind_eq_some_iff.mp h
    simp only [List.foldlM_cons, List.foldlM_nil, Option.bind_eq_bind, Option.pure_def] at h
    obtain ⟨_, h, hn⟩ := Option.bind_eq_some_iff.mp h
    obtain ⟨digit, hdigit, h⟩ := Option.bind_eq_some_iff.mp h
    have hlast := lt_of_digitValue? hdigit
    have hfront := ih hvalue
    simp only [Option.some.injEq] at h hn
    rw [List.length_append, List.length_singleton, Nat.pow_succ]
    nlinarith

/-! ### Addresses of four bytes -/

def byteLabels (address : ℕ) : List (List Char) :=
  [3, 2, 1, 0].map fun place ↦ Nat.toDigits 10 (address / Nat.pow 256 place % 256)

/-- An address of four bytes is written as the bytes with points between them. -/
theorem toList_ipv4Text (address : ℕ) :
    (ipv4Text address).toList = ['.'].intercalate (byteLabels address) := by
  have hpoint : ".".toList = ['.'] := String.toList_ofList
  have hdigits : (String.toList ∘ fun place ↦ toString (address / Nat.pow 256 place % 256)) =
      fun place ↦ Nat.toDigits 10 (address / Nat.pow 256 place % 256) :=
    funext fun place ↦ Nat.toList_repr
  rw [ipv4Text, String.toList_intercalate, List.map_map, hpoint, hdigits, byteLabels]

theorem exists_of_mem_byteLabels {address : ℕ} {label : List Char}
    (h : label ∈ byteLabels address) :
    ∃ byte < 256, label = Nat.toDigits 10 byte := by
  obtain ⟨place, -, rfl⟩ := List.mem_map.mp h
  exact ⟨_, Nat.mod_lt _ (by decide), rfl⟩

theorem isDigit_of_mem_byteLabels {address : ℕ} {label : List Char}
    (h : label ∈ byteLabels address) :
    label ≠ [] ∧ ∀ c ∈ label, c.isDigit = true := by
  obtain ⟨byte, -, rfl⟩ := exists_of_mem_byteLabels h
  exact ⟨Nat.toDigits_ne_nil, fun c ↦ Nat.isDigit_of_mem_toDigits (by decide) (by decide)⟩

/-- The text of an address of four bytes is cut into these bytes again. -/
theorem parts_ipv4Text (address : ℕ) : parts (ipv4Text address).toList = byteLabels address := by
  have hpoint : ∀ label ∈ byteLabels address, '.' ∉ label := fun label hlabel hmem ↦
    absurd ((isDigit_of_mem_byteLabels hlabel).2 '.' hmem) (by decide)
  rw [parts, toList_ipv4Text, List.splitOn_intercalate '.' hpoint (List.cons_ne_nil _ _)]
  change (if (byteLabels address).getLast? == some [] then _ else _) = _
  refine if_neg fun hlast ↦ ?_
  exact (isDigit_of_mem_byteLabels (List.mem_of_getLast? (eq_of_beq hlast))).1 rfl

theorem endsInNumber_ipv4Text (address : ℕ) : endsInNumber (ipv4Text address).toList = true := by
  have hlast : (byteLabels address).getLast? =
      some (Nat.toDigits 10 (address / Nat.pow 256 0 % 256)) := rfl
  obtain ⟨hne, hdigits⟩ := isDigit_of_mem_byteLabels (List.mem_of_getLast? hlast)
  rw [endsInNumber, parts_ipv4Text, hlast]
  simp only [List.isEmpty_eq_false_iff.mpr hne, List.all_eq_true.mpr hdigits, Bool.not_false,
    Bool.and_self, Bool.true_or]

/-- A byte is written without a zero in front, which would make its digits octal. -/
theorem partValue?_toDigits : ∀ byte < 256, partValue? (Nat.toDigits 10 byte) = some byte := by
  decide +kernel

/-- The notation of an address of four bytes is read as one. -/
theorem exists_ipv4?_ipv4Text (address : ℕ) :
    ∃ again, ipv4? (ipv4Text address).toList = some again := by
  have hlt (place : ℕ) : address / Nat.pow 256 place % 256 < 256 := Nat.mod_lt _ (by decide)
  have hvalue (place : ℕ) := partValue?_toDigits _ (hlt place)
  have hvalues : (byteLabels address).mapM partValue? =
      some ([3, 2, 1, 0].map fun place ↦ address / Nat.pow 256 place % 256) := by
    simp only [byteLabels, List.map_cons, List.map_nil, List.mapM_cons, List.mapM_nil, hvalue]
    rfl
  rw [ipv4?, parts_ipv4Text, hvalues]
  simp [combine?, hlt, -Nat.pow_eq]

/-! ### Addresses of eight pieces -/

/-- What is in a group of a colon notation that is no dotted one. -/
def isHexDigit (c : Char) : Bool :=
  c.isDigit || ('a' ≤ c && c ≤ 'f')

theorem toNat_lt_of_isHexDigit {c : Char} (h : isHexDigit c = true) : c.toNat < 128 := by
  simp only [isHexDigit, Char.isDigit, Bool.or_eq_true, Bool.and_eq_true, decide_eq_true_eq,
    Char.le_def, UInt32.le_iff_toNat_le] at h
  change c.val.toNat < 128
  rcases h with h | h
  · exact lt_of_le_of_lt h.2 (by decide)
  · exact lt_of_le_of_lt h.2 (by decide)

theorem isHexDigit_of_mem_toDigits {n : ℕ} : ∀ c ∈ Nat.toDigits 16 n, isHexDigit c = true := by
  have hdigit : ∀ d < 16, isHexDigit d.digitChar = true := by decide
  induction n using Nat.strong_induction_on with
  | h n ih =>
    rw [Nat.toDigits_eq_if (by decide)]
    split_ifs with hn
    · exact List.forall_mem_singleton.mpr (hdigit n hn)
    · exact List.forall_mem_append.mpr ⟨ih _ (Nat.div_lt_self (by omega) (by decide)),
        List.forall_mem_singleton.mpr (hdigit _ (Nat.mod_lt _ (by decide)))⟩

def pieceGroups (pieces : List ℕ) : List (List Char) :=
  pieces.map (Nat.toDigits 16)

/-- Pieces are written in groups with colons between them. -/
theorem toList_piecesText (pieces : List ℕ) :
    (piecesText pieces).toList = [':'].intercalate (pieceGroups pieces) := by
  have hcolon : ":".toList = [':'] := String.toList_ofList
  have hdigits : (String.toList ∘ fun piece ↦ String.ofList (Nat.toDigits 16 piece)) =
      Nat.toDigits 16 :=
    funext fun piece ↦ String.toList_ofList
  rw [piecesText, String.toList_intercalate, List.map_map, hcolon, hdigits, pieceGroups]

theorem of_mem_pieceGroups {pieces : List ℕ} {group : List Char} (h : group ∈ pieceGroups pieces) :
    group ≠ [] ∧ ∀ c ∈ group, isHexDigit c = true := by
  obtain ⟨piece, -, rfl⟩ := List.mem_map.mp h
  exact ⟨Nat.toDigits_ne_nil, isHexDigit_of_mem_toDigits⟩

theorem colon_not_mem {pieces : List ℕ} : ∀ group ∈ pieceGroups pieces, ':' ∉ group :=
  fun _ hgroup hmem ↦ absurd ((of_mem_pieceGroups hgroup).2 ':' hmem) (by decide)

/-- A piece is had back from its group. -/
theorem piece?_toDigits {piece : ℕ} (h : piece < 65536) :
    piece? (Nat.toDigits 16 piece) = some piece := by
  have hlength : (Nat.toDigits 16 piece).length ≤ 4 :=
    (Nat.length_toDigits_le_iff (by decide) (by decide)).mpr h
  rw [piece?, List.isEmpty_eq_false_iff.mpr Nat.toDigits_ne_nil, decide_eq_false (by omega),
    Bool.or_false, if_neg Bool.false_ne_true, digitsValue?_toDigits (by decide) (by decide)]

/-- All pieces are had back from their groups. -/
theorem pieces?_pieceGroups {pieces : List ℕ} (h : ∀ piece ∈ pieces, piece < 65536) (final : Bool) :
    pieces? final (pieceGroups pieces) = some pieces := by
  induction pieces with
  | nil => rfl
  | cons piece pieces ih =>
    obtain ⟨hpiece, hpieces⟩ := List.forall_mem_cons.mp h
    have hread := piece?_toDigits hpiece
    cases pieces with
    | nil =>
      have hpoint : '.' ∉ Nat.toDigits 16 piece :=
        fun hmem ↦ absurd (isHexDigit_of_mem_toDigits '.' hmem) (by decide)
      simp [pieceGroups, pieces?, hpoint, hread]
    | cons next pieces =>
      have hrest := ih hpieces
      simp only [pieceGroups, List.map_cons] at hrest ⊢
      simp [pieces?, hread, hrest]

theorem groups_piecesText (pieces : List ℕ) :
    groups (piecesText pieces).toList = pieceGroups pieces := by
  rw [toList_piecesText, groups]
  cases pieces with
  | nil => rfl
  | cons piece pieces =>
    have hfirst : Nat.toDigits 16 piece ∈ pieceGroups (piece :: pieces) := List.mem_cons_self
    obtain ⟨c, hc⟩ := List.exists_mem_of_ne_nil _ (of_mem_pieceGroups hfirst).1
    have hmem := mem_intercalate_of_mem ':' hfirst hc
    rw [List.splitOn_intercalate ':' colon_not_mem (by simp [pieceGroups]), if_neg]
    rw [List.isEmpty_iff]
    exact List.ne_nil_of_mem hmem

/-! ### Gaps -/

/-- The gap comes behind a group without colons. -/
theorem splitAtGap_append {group : List Char} (h : ':' ∉ group) (text : List Char) :
    splitAtGap (group ++ text) =
      (splitAtGap text).map fun (before, after) ↦ (group ++ before, after) := by
  induction group with
  | nil => simp
  | cons c group ih =>
    rw [List.mem_cons, not_or] at h
    rw [List.cons_append, splitAtGap, ih h.2, Option.map_map]
    · rfl
    · exact fun rest heq ↦ absurd heq.symm h.1

theorem splitAtGap_colon_cons {c : Char} (h : c ≠ ':') (text : List Char) :
    splitAtGap (':' :: c :: text) =
      (splitAtGap (c :: text)).map fun (before, after) ↦ (':' :: before, after) := by
  rw [splitAtGap]
  exact fun rest _ heq ↦ h (List.cons.inj heq).1

theorem exists_piecesText_cons (piece : ℕ) (pieces : List ℕ) :
    ∃ c rest, (piecesText (piece :: pieces)).toList = c :: rest ∧ c ≠ ':' := by
  obtain ⟨c, digits, hdigits⟩ :=
    List.exists_cons_of_ne_nil (Nat.toDigits_ne_nil (n := piece) (b := 16))
  have hc : c ≠ ':' := by
    rintro rfl
    exact absurd (isHexDigit_of_mem_toDigits ':' (hdigits ▸ List.mem_cons_self)) (by decide)
  rw [toList_piecesText]
  cases pieces with
  | nil => exact ⟨c, digits, List.intercalate_singleton.trans hdigits, hc⟩
  | cons next pieces =>
    refine ⟨c, digits ++ [':'] ++ [':'].intercalate (pieceGroups (next :: pieces)), ?_, hc⟩
    rw [pieceGroups, List.map_cons, List.map_cons, List.intercalate_cons_cons, hdigits]
    rfl

/-- There is no gap in pieces, and one behind them is the first. -/
theorem splitAtGap_piecesText (pieces : List ℕ) (text : List Char) :
    splitAtGap (piecesText pieces).toList = none ∧
      splitAtGap ((piecesText pieces).toList ++ ':' :: ':' :: text) =
        some ((piecesText pieces).toList, text) := by
  induction pieces with
  | nil =>
    rw [toList_piecesText]
    exact ⟨rfl, rfl⟩
  | cons piece pieces ih =>
    have hcolon : ':' ∉ Nat.toDigits 16 piece :=
      fun hmem ↦ absurd (isHexDigit_of_mem_toDigits ':' hmem) (by decide)
    cases pieces with
    | nil =>
      have hgroup : (piecesText [piece]).toList = Nat.toDigits 16 piece :=
        (toList_piecesText [piece]).trans List.intercalate_singleton
      have hnone := splitAtGap_append hcolon []
      rw [List.append_nil] at hnone
      rw [hgroup, hnone, splitAtGap_append hcolon]
      exact ⟨rfl, by simp [splitAtGap]⟩
    | cons next pieces =>
      obtain ⟨hnone, hsome⟩ := ih
      have hgroups : (piecesText (piece :: next :: pieces)).toList =
          Nat.toDigits 16 piece ++ ':' :: (piecesText (next :: pieces)).toList := by
        simp only [toList_piecesText, pieceGroups, List.map_cons, List.intercalate_cons_cons,
          List.append_assoc, List.singleton_append]
      -- the next group goes on with a digit, so the colon before it begins no gap
      obtain ⟨c, rest, hnext, hc⟩ := exists_piecesText_cons next pieces
      rw [hgroups, List.append_assoc, splitAtGap_append hcolon, splitAtGap_append hcolon, hnext,
        List.cons_append, List.cons_append, splitAtGap_colon_cons hc, splitAtGap_colon_cons hc,
        ← List.cons_append, ← hnext, hnone, hsome]
      exact ⟨rfl, by simp⟩

/-- A gap begins at one of the pieces and is two pieces long at least. -/
theorem of_longestZeros {pieces : List ℕ} (hne : pieces ≠ []) {start count : ℕ}
    (h : longestZeros pieces = some (start, count)) : start < pieces.length ∧ 2 ≤ count := by
  have hstart : ∀ runs : List (ℕ × ℕ), (∀ run ∈ runs, run.1 < pieces.length) →
      (runs.foldl (fun best run ↦ if best.2 < run.2 then run else best) (0, 1)).1 <
        pieces.length := by
    intro runs hruns
    refine List.foldlRecOn runs _ (motive := fun best : ℕ × ℕ ↦ best.1 < pieces.length)
      (List.length_pos_iff.mpr hne) fun best hbest run hrun ↦ ?_
    split_ifs
    · exact hruns run hrun
    · exact hbest
  rw [longestZeros] at h
  split_ifs at h with hshort
  have hlt := hstart ((List.range pieces.length).map fun start ↦
      (start, ((pieces.drop start).takeWhile (· == 0)).length))
    (List.forall_mem_map.mpr fun start hrun ↦ List.mem_range.mp hrun)
  rw [Option.some.inj h] at hlt hshort
  exact ⟨hlt, Nat.le_of_not_lt hshort⟩

/-- The notation of an address of eight pieces is read as one. -/
theorem exists_ipv6?_ipv6Text {pieces : List ℕ} (hlength : pieces.length = 8)
    (hpieces : ∀ piece ∈ pieces, piece < 65536) :
    ∃ again, ipv6? (ipv6Text pieces).toList = some again := by
  rw [ipv6Text]
  cases hzeros : longestZeros pieces with
  | none =>
    refine ⟨pieces, ?_⟩
    rw [ipv6?, (splitAtGap_piecesText pieces []).1]
    simp [groups_piecesText, pieces?_pieceGroups hpieces, hlength]
  | some gap =>
    obtain ⟨start, count⟩ := gap
    obtain ⟨hstart, hcount⟩ := of_longestZeros (by rintro rfl; simp at hlength) hzeros
    have hgap : "::".toList = [':', ':'] := String.toList_ofList
    have hleft : pieces? false (pieceGroups (pieces.take start)) = some (pieces.take start) :=
      pieces?_pieceGroups (fun piece hmem ↦ hpieces piece (List.mem_of_mem_take hmem)) false
    have hright : pieces? true (pieceGroups (pieces.drop (start + count))) =
        some (pieces.drop (start + count)) :=
      pieces?_pieceGroups (fun piece hmem ↦ hpieces piece (List.mem_of_mem_drop hmem)) true
    have hgiven : (pieces.take start).length + (pieces.drop (start + count)).length < 8 := by
      rw [List.length_take, List.length_drop]
      omega
    dsimp only
    rw [String.toList_append, String.toList_append, hgap, List.append_assoc, List.cons_append,
      List.cons_append, List.nil_append, ipv6?, (splitAtGap_piecesText _ _).2]
    simp only [groups_piecesText, hleft, hright, Option.bind_eq_bind, Option.bind_some]
    exact ⟨_, if_pos hgiven⟩

theorem of_mem_ipv6Text {pieces : List ℕ} {c : Char} (h : c ∈ (ipv6Text pieces).toList) :
    c = ':' ∨ isHexDigit c = true := by
  have hpieces (pieces : List ℕ) (h : c ∈ (piecesText pieces).toList) :
      c = ':' ∨ isHexDigit c = true := by
    rw [toList_piecesText] at h
    exact (mem_of_mem_intercalate h).imp_right
      fun ⟨_, hgroup, hc⟩ ↦ (of_mem_pieceGroups hgroup).2 c hc
  have hgap : "::".toList = [':', ':'] := String.toList_ofList
  rw [ipv6Text] at h
  split at h
  · exact hpieces _ h
  · rw [String.toList_append, String.toList_append, hgap, List.mem_append, List.mem_append] at h
    rcases h with (h | h) | h
    · exact hpieces _ h
    · exact .inl (by simpa using h)
    · exact hpieces _ h

/-! ### What is read from a colon notation -/

theorem lt_of_byte? {text : List Char} {byte : ℕ} (h : byte? text = some byte) : byte < 256 := by
  unfold byte? at h
  split at h
  · exact absurd h (by simp)
  · obtain rfl := Option.some.inj h
    decide
  · exact absurd h (by simp)
  · exact of_decide_eq_true (Option.filter_eq_some_iff.mp h).2

theorem lt_of_piece? {text : List Char} {piece : ℕ} (h : piece? text = some piece) :
    piece < 65536 := by
  rw [piece?] at h
  split_ifs at h with hlength
  have hlt := digitsValue?_lt h
  have hle : 16 ^ text.length ≤ 16 ^ 4 := Nat.pow_le_pow_right (by decide) (by simp_all)
  omega

theorem lt_of_mem_dottedPieces? {text : List Char} {pieces : List ℕ}
    (h : dottedPieces? text = some pieces) : ∀ piece ∈ pieces, piece < 65536 := by
  obtain ⟨bytes, hbytes, h⟩ := Option.bind_eq_some_iff.mp h
  have hlt : ∀ byte ∈ bytes, byte < 256 := fun byte hmem ↦
    have ⟨_, _, hbyte⟩ := Script.exists_of_mem_mapM hbytes byte hmem
    lt_of_byte? hbyte
  split at h
  · obtain rfl := Option.some.inj h
    simp only [List.forall_mem_cons] at hlt ⊢
    exact ⟨by omega, by omega, List.forall_mem_nil _⟩
  · exact absurd h (by simp)

theorem lt_of_mem_pieces? {final : Bool} {texts : List (List Char)} {pieces : List ℕ}
    (h : pieces? final texts = some pieces) : ∀ piece ∈ pieces, piece < 65536 := by
  induction texts generalizing pieces with
  | nil =>
    obtain rfl := Option.some.inj h
    exact List.forall_mem_nil _
  | cons text texts ih =>
    cases texts with
    | nil =>
      rw [pieces?] at h
      split_ifs at h
      · exact lt_of_mem_dottedPieces? h
      · obtain ⟨piece, hpiece, rfl⟩ := Option.map_eq_some_iff.mp h
        exact List.forall_mem_singleton.mpr (lt_of_piece? hpiece)
    | cons next texts =>
      rw [pieces?] at h
      · obtain ⟨piece, hpiece, h⟩ := Option.bind_eq_some_iff.mp h
        obtain ⟨rest, hrest, h⟩ := Option.bind_eq_some_iff.mp h
        obtain rfl := Option.some.inj h
        exact List.forall_mem_cons.mpr ⟨lt_of_piece? hpiece, ih hrest⟩
      · exact List.cons_ne_nil _ _

/-- What a colon notation stands for are eight pieces of two bytes. -/
theorem of_ipv6? {text : List Char} {pieces : List ℕ} (h : ipv6? text = some pieces) :
    pieces.length = 8 ∧ ∀ piece ∈ pieces, piece < 65536 := by
  rw [ipv6?] at h
  split at h
  · obtain ⟨hpieces, hlength⟩ := Option.filter_eq_some_iff.mp h
    exact ⟨eq_of_beq hlength, lt_of_mem_pieces? hpieces⟩
  · obtain ⟨left, hleft, h⟩ := Option.bind_eq_some_iff.mp h
    obtain ⟨right, hright, h⟩ := Option.bind_eq_some_iff.mp h
    dsimp only at h
    split_ifs at h with hgiven
    obtain rfl := Option.some.inj h
    refine ⟨by simp only [List.length_append, List.length_replicate]; omega, ?_⟩
    simp only [List.forall_mem_append, List.mem_replicate]
    exact ⟨⟨lt_of_mem_pieces? hleft, by rintro piece ⟨-, rfl⟩; decide⟩, lt_of_mem_pieces? hright⟩

end PluginRecovery.Address
