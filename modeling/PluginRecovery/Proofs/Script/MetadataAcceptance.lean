import Mathlib
import PluginRecovery.Proofs.Dictionary
import PluginRecovery.Proofs.Pattern.Language
import PluginRecovery.Proofs.Pattern.Placement
import PluginRecovery.Proofs.Script.BraceMatching
import PluginRecovery.Proofs.Text.Windows
import PluginRecovery.Proofs.Trace.Chain
import PluginRecovery.Script.Metadata

/-!
What a metadata object is known to be when it is accepted. All ways but one take an object literal
as a whole and ask for a key that identifies a plugin (`exists_identityKey_of_acceptIdentity`). The
argument of a constructor is such a literal, from its brace to the one that closes it
(`isBlockOf_of_fromConstructorCall`). The other way asks for no key, but each property is one of the
known fields with a value that stands shortly behind the constructor's brace
(`isGatheredFrom_of_fromConstructorFields`). `resolve_metadataChain` tells which of this holds by
the step that the chain names.
-/

set_option autoImplicit false
set_option relaxedAutoImplicit false

namespace PluginRecovery.Script

open PluginRecovery.Text PluginRecovery.Pattern

variable {code : List Char} {literal : ObjectLiteral}

/-- The literal is the argument of the first constructor call: it is read from the text between the
brace of the call and the one that closes it, the braces included. -/
def ObjectLiteral.IsBlockOf (literal : ObjectLiteral) (code : List Char) : Prop :=
  ∃ before inner after, code = before ++ '{' :: inner ++ '}' :: after ∧
    constructorArgument? code = some literal.start ∧
    literal.start = size before ∧ literal.stop = size (before ++ '{' :: inner) ∧
    closingBrace? (bytes code) (literal.start + 1) = some literal.stop ∧
    slice code literal.start (literal.stop + 1) = '{' :: inner ++ ['}'] ∧
    literal.properties = readProperties (slice code literal.start (literal.stop + 1))

/-- The value is a text without double quotes that stands in the code from byte `start` to byte
`stop`. -/
def Value.StandsIn (value : Value) (code : List Char) (start stop : ℕ) : Prop :=
  ∃ text front back, value = .str (String.ofList text) ∧ text ≠ [] ∧ '"' ∉ text ∧
    code = front ++ text ++ back ∧ start ≤ size front ∧ size (front ++ text) ≤ stop

/-- The literal is made of known fields whose values stand behind the brace of the first constructor
call, within the window. -/
structure ObjectLiteral.IsGatheredFrom (literal : ObjectLiteral) (code : List Char) : Prop where
  argument : constructorArgument? code = some literal.start
  brace : (bytes code)[literal.start]? = some '{'.toUInt8
  nonempty : literal.properties ≠ []
  names : ∀ entry ∈ literal.properties, entry.1 ∈ constructorFields
  values : ∀ entry ∈ literal.properties,
    entry.2.StandsIn code literal.start (literal.start + constructorWindow)

/-! ### Literals that are taken as a whole -/

/-- An accepted literal has a key that identifies a plugin. -/
theorem exists_identityKey_of_acceptIdentity {candidate : ObjectLiteral}
    (h : candidate.acceptIdentity = .ok literal) :
    candidate = literal ∧
      ∃ key ∈ identityKeys, (Dictionary.get? literal.properties key).isSome = true := by
  rw [ObjectLiteral.acceptIdentity] at h
  split_ifs at h with hidentity
  obtain rfl := Except.ok.inj h
  exact ⟨rfl, List.any_eq_true.mp hidentity⟩

/-- What is read as a whole has the properties of the text that is found, and a key that identifies
a plugin. -/
theorem exists_text_of_readWhole {find : List Char → Attempt LiteralText}
    (h : readWhole find code = .ok literal) :
    (∃ found, find code = .ok found ∧
      literal = ⟨readProperties found.text, found.start, found.stop⟩) ∧
    ∃ key ∈ identityKeys, (Dictionary.get? literal.properties key).isSome = true := by
  rw [readWhole] at h
  cases hfind : find code with
  | error miss =>
    rw [hfind] at h
    exact absurd h (by simp [bind, Except.bind])
  | ok found =>
    rw [hfind] at h
    obtain ⟨rfl, hidentity⟩ := exists_identityKey_of_acceptIdentity h
    exact ⟨⟨found, rfl, rfl⟩, hidentity⟩

theorem exists_found_of_fromCandidate {p : Pattern} (h : fromCandidate p code = .ok literal) :
    (∃ found, p.search? code = some found ∧ literal = ⟨readProperties (found.groupText 1),
      found.whole.start.offset, found.whole.stop.offset - 1⟩) ∧
    ∃ key ∈ identityKeys, (Dictionary.get? literal.properties key).isSome = true := by
  obtain ⟨⟨text, htext, rfl⟩, hidentity⟩ := exists_text_of_readWhole h
  refine ⟨?_, hidentity⟩
  rw [candidateLiteral] at htext
  cases hfound : p.search? code with
  | none => simp [hfound] at htext
  | some found =>
    simp only [hfound] at htext
    obtain rfl := Except.ok.inj htext
    exact ⟨found, rfl, rfl⟩

/-- A candidate is only taken if it has one of the keys of an identity. -/
theorem exists_identityKey_of_fromCandidate {p : Pattern} (h : fromCandidate p code = .ok literal) :
    ∃ key ∈ identityKeys, (Dictionary.get? literal.properties key).isSome = true :=
  (exists_found_of_fromCandidate h).2

/-! ### The constructor call -/

theorem endsWith_constructorCall : constructorCall.EndsWith '{' :=
  (endsWith_literal [] rfl).append _

/-- The argument of a constructor opens with a brace. -/
theorem exists_of_constructorArgument? {start : ℕ} (h : constructorArgument? code = some start) :
    ∃ before rest, code = before ++ '{' :: rest ∧ start = size before := by
  obtain ⟨found, hfound, rfl⟩ := Option.map_eq_some_iff.mp h
  obtain ⟨front, call, back, hcode, -, hstop⟩ :=
    (finds_of_search? hfound).exists_last endsWith_constructorCall
  refine ⟨front ++ call, back, hcode, ?_⟩
  rw [hstop]
  exact Nat.add_sub_cancel _ 1

/-- What is read from a call of the constructor is a block of the text and has one of the keys of an
identity. -/
theorem isBlockOf_of_fromConstructorCall (h : fromConstructorCall code = .ok literal) :
    literal.IsBlockOf code ∧
      ∃ key ∈ identityKeys, (Dictionary.get? literal.properties key).isSome = true := by
  obtain ⟨⟨text, htext, rfl⟩, hidentity⟩ := exists_text_of_readWhole h
  refine ⟨?_, hidentity⟩
  rw [constructorLiteral] at htext
  cases hargument : constructorArgument? code with
  | none => simp [hargument] at htext
  | some start =>
    simp only [hargument] at htext
    cases hclosing : closingBrace? (bytes code) (start + 1) with
    | none => simp [hclosing] at htext
    | some stop =>
      simp only [hclosing] at htext
      obtain rfl := Except.ok.inj htext
      obtain ⟨before, rest, rfl, rfl⟩ := exists_of_constructorArgument? hargument
      obtain ⟨inner, after, rfl, rfl⟩ := exists_inner_of_closingBrace? hclosing
      have hbrace : size ['}'] = 1 := rfl
      have hslice := slice_append before ('{' :: inner ++ ['}']) after
      rw [← List.append_assoc before, size_append (before ++ _), hbrace] at hslice
      exact ⟨before, inner, after, by simp, hargument, rfl, rfl, hclosing, by simpa using hslice,
        rfl⟩

/-! ### Fields behind a constructor call -/

/-- The pattern of a field keeps the text in the quotes, which has no quote and is not empty. -/
theorem keeps_fieldPattern (key : String) :
    (fieldPattern key).keeps = [(1, oneOrMore (· != '"'))] := by
  simp [fieldPattern, keeps, gap, anyNumber, oneOrMore]

theorem alwaysKeeps_fieldPattern (key : String) : (fieldPattern key).alwaysKeeps 1 = true := by
  simp [fieldPattern, alwaysKeeps]

/-- The value of a field stands in the text that is searched. -/
theorem exists_value_of_fieldPattern {key : String} {text : List Char} {found : Match}
    (h : (fieldPattern key).search? text = some found) :
    ∃ front back, text = front ++ found.groupText 1 ++ back ∧ found.groupText 1 ≠ [] ∧
      '"' ∉ found.groupText 1 := by
  obtain ⟨span, hspan⟩ := exists_group?_of_alwaysKeeps h (alwaysKeeps_fieldPattern key)
  have htext : found.groupText 1 = span.text := by rw [Match.groupText, hspan]; rfl
  obtain ⟨front, back, hparts, -⟩ := exists_part_of_group? h hspan
  obtain ⟨body, hbody, haccepts⟩ := exists_accepts_of_group? h hspan
  rw [keeps_fieldPattern, List.mem_singleton] at hbody
  obtain rfl := congrArg Prod.snd hbody
  obtain ⟨hall, hlength, -⟩ := Accepts.of_many haccepts
  rw [htext]
  refine ⟨front, back, hparts, List.length_pos_iff.mp hlength, fun hquote ↦ ?_⟩
  exact absurd (hall _ hquote) (by decide)

/-- The fields are searched for in a part of the code that begins with the brace of the first
constructor call and is as long as the window allows. -/
theorem exists_chunk_of_fromConstructorFields (h : fromConstructorFields code = .ok literal) :
    ∃ before chunk after, code = before ++ chunk ++ after ∧ chunk.head? = some '{' ∧
      chunk = takeBytes constructorWindow (chunk ++ after) ∧
      constructorArgument? code = some literal.start ∧ literal.start = size before ∧
      literal.stop = size (before ++ chunk) ∧ literal.properties ≠ [] ∧
      ∀ entry ∈ literal.properties, ∃ key ∈ constructorFields, ∃ found,
        (fieldPattern key).search? chunk = some found ∧
          entry = (key, Value.str (String.ofList (found.groupText 1))) := by
  rw [fromConstructorFields] at h
  cases hargument : constructorArgument? code with
  | none => simp [hargument] at h
  | some start =>
    simp only [hargument] at h
    obtain ⟨before, rest, rfl, rfl⟩ := exists_of_constructorArgument? hargument
    rw [window_append] at h
    split_ifs at h with hempty
    obtain rfl := Except.ok.inj h
    obtain ⟨after, hafter⟩ := takeBytes_prefix constructorWindow ('{' :: rest)
    refine ⟨before, takeBytes constructorWindow ('{' :: rest), after, ?_, rfl, ?_, rfl, rfl,
      (size_append _ _).symm, fun hnil ↦ hempty (List.isEmpty_iff.mpr hnil), fun entry hentry ↦ ?_⟩
    · rw [List.append_assoc, hafter]
    · rw [hafter]
    · obtain ⟨key, hkey, hmap⟩ := List.mem_filterMap.mp (Dictionary.mem_of_mem_ofEntries hentry)
      obtain ⟨found, hfound, rfl⟩ := Option.map_eq_some_iff.mp hmap
      exact ⟨key, hkey, found, hfound, rfl⟩

/-- What is read field by field is gathered behind the brace of the call. -/
theorem isGatheredFrom_of_fromConstructorFields (h : fromConstructorFields code = .ok literal) :
    literal.IsGatheredFrom code := by
  obtain ⟨before, chunk, after, hcode, hhead, hchunk, hargument, hstart, -, hne, hfields⟩ :=
    exists_chunk_of_fromConstructorFields h
  refine ⟨hargument, ?_, hne, fun entry hentry ↦ ?_, fun entry hentry ↦ ?_⟩
  · obtain ⟨rest, hrest⟩ := List.head?_eq_some_iff.mp hhead
    refine (getElem?_bytes_eq_some_iff (by decide)).mpr ⟨before, rest ++ after, ?_, hstart⟩
    rw [hcode, hrest, List.append_assoc, List.cons_append]
  · obtain ⟨key, hkey, found, -, rfl⟩ := hfields entry hentry
    exact hkey
  · obtain ⟨key, -, found, hfound, rfl⟩ := hfields entry hentry
    obtain ⟨front, back, hparts, hvalue, hquote⟩ := exists_value_of_fieldPattern hfound
    have hsize : size chunk ≤ constructorWindow := by
      rw [hchunk]
      exact size_takeBytes_le _ _
    refine ⟨_, before ++ front, back ++ after, rfl, hvalue, hquote, ?_, ?_, ?_⟩
    · rw [hcode, hparts]
      simp only [List.append_assoc]
    · rw [hstart, size_append]
      exact Nat.le_add_right _ _
    · rw [hparts, size_append, size_append] at hsize
      rw [hstart, size_append, size_append]
      omega

/-! ### The chain -/

/-- A metadata object that is accepted has been found by one of the ways, which the events name. But
for the fields behind a constructor call it has a key that identifies a plugin. -/
theorem resolve_metadataChain (h : (metadataChain.resolve code).value = .ok literal) :
    ∃ label ∈ metadataChain.labels,
      matchedStep? metadataChain.field (metadataChain.resolve code).events = some label ∧
        (label ≠ "constructor-fields" →
          ∃ key ∈ identityKeys, (Dictionary.get? literal.properties key).isSome = true) ∧
        (label = "constructor-call" → literal.IsBlockOf code) ∧
        (label = "constructor-fields" → literal.IsGatheredFrom code) := by
  obtain ⟨step, hstep, hattempt, hlabel⟩ := Chain.exists_step_of_resolve h
  refine ⟨step.label, List.mem_map_of_mem hstep, hlabel, ?_⟩
  simp only [metadataChain, List.mem_cons, List.not_mem_nil, or_false] at hstep
  rcases hstep with rfl | rfl | rfl | rfl | rfl
  · obtain ⟨hblock, hidentity⟩ := isBlockOf_of_fromConstructorCall hattempt
    exact ⟨fun _ ↦ hidentity, fun _ ↦ hblock, fun h ↦ absurd h (by decide)⟩
  · exact ⟨fun h ↦ absurd rfl h, fun h ↦ absurd h (by decide),
      fun _ ↦ isGatheredFrom_of_fromConstructorFields hattempt⟩
  -- The last three steps differ only in their patterns.
  all_goals exact ⟨fun _ ↦ exists_identityKey_of_fromCandidate hattempt,
    fun h ↦ absurd h (by decide), fun h ↦ absurd h (by decide)⟩

/-- A call that is complete is read as a whole, and one that is cut off field by field. -/
theorem resolve_metadataChain_call_and_cut :
    let call := "new P(\x7bid:'p'\x7d)".toList
    let cut := "new P(\x7b\"id\":\"é\",".toList
    ∃ whole fields, (metadataChain.resolve call).value = .ok whole ∧
      (metadataChain.resolve cut).value = .ok fields ∧ whole.IsBlockOf call ∧
      (∃ key ∈ identityKeys, (Dictionary.get? whole.properties key).isSome = true) ∧
      fields.IsGatheredFrom cut := by
  intro call cut
  have hexists {result : Attempt ObjectLiteral} (h : result.toOption.isSome = true) :
      ∃ literal, result = .ok literal := by
    cases result with
    | ok literal => exact ⟨literal, rfl⟩
    | error miss => exact absurd h Bool.false_ne_true
  obtain ⟨whole, hwhole⟩ : ∃ literal, (metadataChain.resolve call).value = .ok literal :=
    hexists (by decide +kernel)
  obtain ⟨fields, hfields⟩ : ∃ literal, (metadataChain.resolve cut).value = .ok literal :=
    hexists (by decide +kernel)
  have hcall : matchedStep? metadataChain.field (metadataChain.resolve call).events =
      some "constructor-call" := by decide +kernel
  have hcut : matchedStep? metadataChain.field (metadataChain.resolve cut).events =
      some "constructor-fields" := by decide +kernel
  obtain ⟨label, -, hlabel, hidentity, hblock, -⟩ := resolve_metadataChain hwhole
  obtain rfl := Option.some.inj (hcall.symm.trans hlabel)
  obtain ⟨label, -, hlabel, -, -, hgathered⟩ := resolve_metadataChain hfields
  obtain rfl := Option.some.inj (hcut.symm.trans hlabel)
  exact ⟨whole, fields, hwhole, hfields, hblock rfl, hidentity (by decide), hgathered rfl⟩

end PluginRecovery.Script
