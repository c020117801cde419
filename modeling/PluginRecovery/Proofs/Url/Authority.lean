import Mathlib
import PluginRecovery.Proofs.Url.Host

/-!
Authorities as they are written. The signs that part an authority stand in none of its parts: the
last `@` ends the credentials (`splitCredentials_append`) and the first colon behind a `HostText` is
that of the port (`splitPort_portText`). So an authority that was read can be written and read again
(`of_authority?`), if not to the same effect: the port that a scheme stands for is left out.
-/

set_option autoImplicit false
set_option relaxedAutoImplicit false

namespace PluginRecovery.Url

open PluginRecovery.Text

/-! ### Ports -/

/-- The number that digits write, as far as a port can tell it. -/
theorem foldl_min_eq (value : ℕ) (digits : List Char) :
    digits.foldl (fun value c ↦ min (value * 10 + (c.toNat - '0'.toNat)) 65536) (min value 65536) =
      min (digits.foldl (fun value c ↦ value * 10 + (c.toNat - '0'.toNat)) value) 65536 := by
  induction digits generalizing value with
  | nil => rfl
  | cons c digits ih =>
    rw [List.foldl_cons, List.foldl_cons, ← ih]
    congr 1
    omega

theorem lt_of_port? {scheme : String} {text : List Char} {port : ℕ}
    (h : port? scheme text = .ok (some port)) : port < 65536 := by
  have hle := foldl_min_eq 0 text
  rw [Nat.zero_min] at hle
  rw [port?] at h
  split_ifs at h with hdigits
  split at h
  · exact absurd h (by simp)
  · next hvalue =>
    split_ifs at h with hdefault
    · exact absurd (Except.ok.inj h) (by simp)
    · obtain rfl := Option.some.inj (Except.ok.inj h)
      exact lt_of_le_of_ne (hle.trans_le (min_le_right _ _)) hvalue

/-- The digits of a port are read as a port. -/
theorem exists_port?_toDigits (scheme : String) {port : ℕ} (h : port < 65536) :
    ∃ again, port? scheme (Nat.toDigits 10 port) = .ok again := by
  have hdigits : (Nat.toDigits 10 port).all Char.isDigit = true :=
    List.all_eq_true.mpr fun c ↦ Nat.isDigit_of_mem_toDigits (by decide) (by decide)
  have hvalue : (Nat.toDigits 10 port).foldl (fun value c ↦ value * 10 + (c.toNat - '0'.toNat)) 0 =
      port := by
    have hdecimal := Nat.ofDigitChars_ten_toDigits (n := port)
    rw [Nat.ofDigitChars_eq_foldl] at hdecimal
    simpa only [Nat.mul_comm] using hdecimal
  have hle := foldl_min_eq 0 (Nat.toDigits 10 port)
  rw [Nat.zero_min, hvalue, min_eq_left h.le] at hle
  rw [port?, hdigits, hle, if_neg (by decide)]
  split
  · omega
  · exact ⟨_, rfl⟩

/-! ### User names and passwords -/

theorem inCredentials_of_mem_namePassword (text : List Char) :
    (∀ c ∈ (namePassword text).1.toList, inCredentials c = true) ∧
      ∀ c ∈ (namePassword text).2.toList, inCredentials c = true := by
  have hescape : ∀ c ∈ escapeCharacters, inCredentials c = true :=
    List.all_eq_true.mp (by decide)
  rw [namePassword]
  simp only [String.toList_ofList]
  exact ⟨kept_of_mem_percentEncode hescape, kept_of_mem_percentEncode hescape⟩

theorem splitCredentials_of_not_mem {text : List Char} (h : '@' ∉ text) :
    splitCredentials text = (none, text) := by
  have hself : (text.reverse.takeWhile (· != '@')).reverse = text := by
    rw [List.takeWhile_eq_self_iff.mpr, List.reverse_reverse]
    intro c hc
    exact bne_iff_ne.mpr fun heq ↦ h (heq ▸ List.mem_reverse.mp hc)
  rw [splitCredentials, hself]
  simp

/-- What stands before the last `@` is the credentials. -/
theorem splitCredentials_append {text : List Char} (h : '@' ∉ text) (credentials : List Char) :
    splitCredentials (credentials ++ '@' :: text) = (some credentials, text) := by
  have hself : ((credentials ++ '@' :: text).reverse.takeWhile (· != '@')).reverse = text := by
    rw [List.reverse_append, List.reverse_cons, List.append_assoc, List.takeWhile_append_of_pos]
    · simp
    · intro c hc
      exact bne_iff_ne.mpr fun heq ↦ h (heq ▸ List.mem_reverse.mp hc)
  have hlength : (credentials ++ '@' :: text).length - text.length - 1 = credentials.length := by
    rw [List.length_append, List.length_cons]
    omega
  rw [splitCredentials, hself, hlength, List.take_left, if_pos]
  rw [List.length_append, List.length_cons]
  omega

/-! ### Hosts with ports -/

/-- A port with its colon, as it is written behind a host. -/
def portText : Option ℕ → String
  | none => ""
  | some port => ":" ++ toString port

theorem exists_of_bind_eq_ok {ε α β : Type} {x : Except ε α} {f : α → Except ε β} {b : β}
    (h : (x >>= f) = .ok b) : ∃ a, x = .ok a ∧ f a = .ok b := by
  cases x with
  | error e => exact absurd h (by simp [bind, Except.bind])
  | ok a => exact ⟨a, rfl, h⟩

theorem eq_nil_of_splitPort {inside : Bool} {text : List Char}
    (h : splitPort inside text = ([], none)) : text = [] := by
  cases text with
  | nil => rfl
  | cons c rest =>
    rw [splitPort] at h
    split_ifs at h
    · exact absurd (congrArg Prod.snd h) (by simp)
    all_goals exact absurd (congrArg Prod.fst h) (by simp)

def hostOf? (scheme : String) (text : List Char) : Except UrlError Host :=
  if isSpecial scheme then namedHost? text else plainHost? text

/-- What a host establishes that was read. -/
theorem of_hostOf? {scheme : String} {text : List Char} {host : Host}
    (h : hostOf? scheme text = .ok host) :
    HostText host.text.toList ∧ (host.text = "" → text = [] ∧ isSpecial scheme = false) ∧
      ∃ again, hostOf? scheme host.text.toList = .ok again := by
  simp only [hostOf?] at h ⊢
  split_ifs at h ⊢ with hspecial
  · obtain ⟨htext, hne, hagain⟩ := of_namedHost? h
    exact ⟨htext, fun heq ↦ absurd heq hne, hagain⟩
  · obtain ⟨htext, hne, hagain⟩ := of_plainHost? h
    exact ⟨htext, fun heq ↦ ⟨not_imp_comm.mp hne (not_not.mpr heq), Bool.eq_false_iff.mpr hspecial⟩,
      hagain⟩

/-- A host is read, and then its port. Only a special scheme or a port needs a host. -/
theorem hostPort?_eq (scheme : String) (text : List Char) : hostPort? scheme text =
    if (splitPort false text).1.isEmpty &&
        (isSpecial scheme || (splitPort false text).2.isSome) then
      .error .emptyHost
    else hostOf? scheme (splitPort false text).1 >>= fun host ↦
      port? scheme ((splitPort false text).2.getD []) >>= fun port ↦ .ok (host, port) := by
  unfold hostPort? hostOf?
  cases isSpecial scheme <;> rfl

/-- A port that is written is read as one, with no host before it. -/
theorem splitPort_portText (port : Option ℕ) :
    splitPort false (portText port).toList = ([], port.map (Nat.toDigits 10)) := by
  cases port with
  | none => rfl
  | some port =>
    have hcolon : ":".toList = [':'] := String.toList_ofList
    rw [portText, String.toList_append, hcolon]
    exact congrArg (fun digits ↦ ([], some digits)) Nat.toList_repr

/-- A host and a port that were read can be written and read again. -/
theorem of_hostPort? {scheme : String} {text : List Char} {host : Host} {port : Option ℕ}
    (h : hostPort? scheme text = .ok (host, port)) :
    HostText host.text.toList ∧ (host.text = "" → text = []) ∧
      ∃ again, hostPort? scheme (host.text.toList ++ (portText port).toList) = .ok again := by
  rw [hostPort?_eq] at h
  split_ifs at h with hempty
  obtain ⟨read, hread, h⟩ := exists_of_bind_eq_ok h
  obtain ⟨number, hnumber, h⟩ := exists_of_bind_eq_ok h
  obtain ⟨rfl, rfl⟩ := Prod.mk.inj (Except.ok.inj h)
  obtain ⟨htext, hhost, again, hagain⟩ := of_hostOf? hread
  have hlt : ∀ port, number = some port → port < 65536 :=
    fun port hport ↦ lt_of_port? (hport ▸ hnumber)
  -- where no host is written, neither is a port
  have hnothing : read.text = "" → splitPort false text = ([], none) := by
    intro heq
    obtain ⟨hhead, hspecial⟩ := hhost heq
    rw [hhead, hspecial, List.isEmpty_nil, Bool.true_and, Bool.false_or, Option.isSome_iff_ne_none,
      not_not] at hempty
    exact Prod.ext hhead hempty
  refine ⟨htext, fun heq ↦ eq_nil_of_splitPort (hnothing heq), ?_⟩
  have hnoPort : read.text = "" → number = none := by
    intro heq
    rw [hnothing heq] at hnumber
    exact (Except.ok.inj hnumber).symm
  obtain ⟨port, hport⟩ :
      ∃ port, port? scheme ((number.map (Nat.toDigits 10)).getD []) = .ok port := by
    cases number with
    | none => exact ⟨none, rfl⟩
    | some number => exact exists_port?_toDigits scheme (hlt number rfl)
  refine ⟨(again, port), ?_⟩
  rw [hostPort?_eq, htext.closed, splitPort_portText, List.append_nil, hagain, hport, if_neg]
  · rfl
  · rw [Bool.and_eq_true, List.isEmpty_iff]
    rintro ⟨hnil, hsign⟩
    have heq : read.text = "" := String.toList_eq_nil_iff.mp hnil
    rw [hnoPort heq, (hhost heq).2] at hsign
    exact Bool.false_ne_true hsign

/-! ### Authorities -/

def Authority.text (a : Authority) : String :=
  (if a.username.isEmpty && a.password.isEmpty then ""
    else a.username ++ (if a.password.isEmpty then "" else ":" ++ a.password) ++ "@") ++
  a.host.text ++ portText a.port

theorem inAuthority_of_inCredentials {c : Char} (h : inCredentials c = true) :
    inAuthority c = true := by
  have hplain : isPlain c = true := by
    simp only [inCredentials, inPath, inFragment, Bool.and_eq_true] at h
    exact h.1.1.1
  have hall : inCredentials c = true → inAuthority c = true :=
    forall_of_ofNat (P := fun c ↦ inCredentials c = true → inAuthority c = true) (by decide)
      (toNat_lt_of_isPlain hplain)
  exact hall h

theorem inAuthority_of_mem_portText {port : Option ℕ} :
    ∀ c ∈ (portText port).toList, inAuthority c = true ∧ c ≠ '@' := by
  cases port with
  | none => exact List.forall_mem_nil _
  | some port =>
    have hcolon : ":".toList = [':'] := String.toList_ofList
    have hdigits : (toString port).toList = Nat.toDigits 10 port := Nat.toList_repr
    rw [portText, String.toList_append, hcolon, hdigits, List.singleton_append,
      List.forall_mem_cons]
    refine ⟨by decide, fun c hc ↦ ?_⟩
    have hdigit := Nat.isDigit_of_mem_toDigits (by decide) (by decide) hc
    have hall : c.isDigit = true → inAuthority c = true ∧ c ≠ '@' :=
      forall_of_ofNat (P := fun c ↦ c.isDigit = true → inAuthority c = true ∧ c ≠ '@') (by decide)
        (Address.toNat_lt_of_isHexDigit (by rw [Address.isHexDigit, hdigit, Bool.true_or]))
    exact hall hdigit

/-- An authority can be read if its host and port can. -/
theorem exists_authority? {scheme : String} {text hostText : List Char}
    {credentials : Option (List Char)}
    (hsplit : splitCredentials text = (credentials, hostText))
    (hempty : ¬(credentials.isSome && hostText.isEmpty) = true)
    (hread : ∃ again, hostPort? scheme hostText = .ok again) :
    ∃ again, authority? scheme text = .ok again := by
  obtain ⟨⟨host, port⟩, hread⟩ := hread
  unfold authority?
  dsimp only
  rw [hsplit, if_neg hempty, hread]
  exact ⟨_, rfl⟩

/-- The credentials of an authority that has any end with the first sign in it. -/
theorem Authority.exists_toList_text {a : Authority}
    (h : ¬(a.username.isEmpty && a.password.isEmpty) = true) :
    ∃ front, a.text.toList = front ++ '@' :: (a.host.text.toList ++ (portText a.port).toList) ∧
      ∀ c ∈ front, c ∈ a.username.toList ∨ c ∈ a.password.toList ∨ c = ':' := by
  have hat : "@".toList = ['@'] := String.toList_ofList
  have hcolon : ":".toList = [':'] := String.toList_ofList
  refine ⟨a.username.toList ++ (if a.password.isEmpty then [] else ':' :: a.password.toList),
    ?_, ?_⟩
  · rw [text, if_neg h]
    split_ifs <;> simp [String.toList_append, hat, hcolon]
  · intro c hc
    split_ifs at hc
    all_goals
      simp only [List.append_nil, List.mem_append, List.mem_cons] at hc
      tauto

/-- What a successful reading of an authority establishes: it can be written and read again. -/
theorem of_authority? {scheme : String} {text : List Char} {a : Authority}
    (h : authority? scheme text = .ok a) :
    (∀ c ∈ a.text.toList, inAuthority c = true) ∧
      ∃ again, authority? scheme a.text.toList = .ok again := by
  unfold authority? at h
  dsimp only at h
  split_ifs at h with hempty
  obtain ⟨⟨host, port⟩, hread, h⟩ := exists_of_bind_eq_ok h
  obtain rfl := Except.ok.inj h
  obtain ⟨htext, hnothing, hagain⟩ := of_hostPort? hread
  have hchars : ∀ c ∈ host.text.toList ++ (portText port).toList, inAuthority c = true ∧ c ≠ '@' :=
    List.forall_mem_append.mpr ⟨htext.chars, inAuthority_of_mem_portText⟩
  have hat : '@' ∉ host.text.toList ++ (portText port).toList := fun hmem ↦ (hchars '@' hmem).2 rfl
  obtain ⟨husername, hpassword⟩ :=
    inCredentials_of_mem_namePassword ((splitCredentials text).1.getD [])
  by_cases hnone : ((namePassword ((splitCredentials text).1.getD [])).1.isEmpty &&
      (namePassword ((splitCredentials text).1.getD [])).2.isEmpty) = true
  · rw [Authority.text, if_pos hnone, String.empty_append, String.toList_append]
    exact ⟨fun c hc ↦ (hchars c hc).1,
      exists_authority? (splitCredentials_of_not_mem hat) (by simp) hagain⟩
  · obtain ⟨front, htoList, hfront⟩ := Authority.exists_toList_text
      (a := ⟨_, _, host, port⟩) hnone
    rw [htoList]
    refine ⟨List.forall_mem_append.mpr ⟨fun c hc ↦ ?_, List.forall_mem_cons.mpr
      ⟨by decide, fun c hc ↦ (hchars c hc).1⟩⟩,
      exists_authority? (splitCredentials_append hat front) ?_ hagain⟩
    · rcases hfront c hc with hc | hc | rfl
      · exact inAuthority_of_inCredentials (husername c hc)
      · exact inAuthority_of_inCredentials (hpassword c hc)
      · decide
    -- without a host no credentials were read
    · rw [Option.isSome_some, Bool.true_and, List.isEmpty_iff, List.append_eq_nil_iff]
      rintro ⟨hnil, -⟩
      rw [hnothing (String.toList_eq_nil_iff.mp hnil), List.isEmpty_nil, Bool.and_true,
        Option.isSome_iff_ne_none, not_not] at hempty
      rw [hempty] at hnone
      exact hnone rfl

end PluginRecovery.Url
