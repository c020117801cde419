import Mathlib
import PluginRecovery.Proofs.Script.MetadataAcceptance
import PluginRecovery.Script.Plugin

/-!
Where a metadata object stands in the code without comments. A literal that is taken as a whole
`LiesIn` the code from its first to its last character, whether braces are matched
(`ObjectLiteral.IsBlockOf.liesIn`) or a pattern is that ends with a brace
(`liesIn_of_fromCandidate`). The fields behind a constructor call are read from a window, and the
second offset is the end of the window: a place between characters, but when the code ends within
the window it is the end of the code, where no character stands
(`offsets_of_fromConstructorFields`). `liesIn_metadata_iff` puts these together, and
`not_liesIn_of_cut_call` is a script in which the two ends meet.
-/

set_option autoImplicit false
set_option relaxedAutoImplicit false

namespace PluginRecovery.Script

open PluginRecovery.Text PluginRecovery.Pattern

variable {code : List Char} {literal : ObjectLiteral}

/-- The offsets are in order, and each is the place of a character of the code. -/
structure ObjectLiteral.LiesIn (literal : ObjectLiteral) (code : List Char) : Prop where
  start_le : literal.start ≤ literal.stop
  stop_lt : literal.stop < size code
  start_isBoundary : IsBoundary code literal.start
  stop_isBoundary : IsBoundary code literal.stop

/-- Two places between characters are the offsets of a literal in the code when the later one is not
the end. -/
theorem ObjectLiteral.liesIn_iff (hle : literal.start ≤ literal.stop)
    (hstart : IsBoundary code literal.start) (hstop : IsBoundary code literal.stop) :
    literal.LiesIn code ↔ literal.stop < size code :=
  ⟨LiesIn.stop_lt, fun h ↦ ⟨hle, h, hstart, hstop⟩⟩

/-! ### Literals that are taken as a whole -/

/-- A block of the text lies in the text. -/
theorem ObjectLiteral.IsBlockOf.liesIn (h : literal.IsBlockOf code) : literal.LiesIn code := by
  obtain ⟨before, inner, after, hcode, -, hstart, hstop, -⟩ := h
  have hsplit : code = before ++ ('{' :: inner ++ '}' :: after) := by
    rw [hcode, List.append_assoc]
  refine ⟨?_, ?_, ⟨before, _, hsplit, hstart⟩, ⟨before ++ '{' :: inner, _, hcode, hstop⟩⟩
  · rw [hstart, hstop]
    exact size_le_append _ _
  · rw [hstop, hcode]
    exact size_lt_append_cons _ _ _

/-- A literal that a pattern finds which ends with a closing brace lies in the code up to that
brace. -/
theorem liesIn_of_fromCandidate {p : Pattern} (hlast : p.EndsWith '}')
    (h : fromCandidate p code = .ok literal) : literal.LiesIn code := by
  obtain ⟨⟨found, hfound, rfl⟩, -⟩ := exists_found_of_fromCandidate h
  obtain ⟨front, middle, back, rfl, hstart, hstop⟩ := (finds_of_search? hfound).exists_last hlast
  have hbrace : found.whole.stop.offset - 1 = size (front ++ middle) := by
    rw [hstop]
    exact Nat.add_sub_cancel _ 1
  rw [hstart, hbrace]
  refine ⟨size_le_append _ _, size_lt_append_cons _ _ _, ?_, isBoundary_append _ _⟩
  rw [List.append_assoc]
  exact isBoundary_append _ _

theorem endsWith_exportDefault : exportDefault.EndsWith '}' :=
  (((endsWith_literal ['\n'] rfl).append _).group 1).append _

theorem endsWith_lineStartObject : lineStartObject.EndsWith '}' :=
  (((endsWith_literal [] rfl).append _).group 1).append _

theorem endsWith_minifiedObject : minifiedObject.EndsWith '}' :=
  ((endsWith_literal [] rfl).append _).group 1

/-! ### Fields behind a constructor call -/

/-- The end of the window is a place of the code, and that of a character exactly when the code goes
on behind as many bytes as the window may have. -/
theorem offsets_of_fromConstructorFields (h : fromConstructorFields code = .ok literal) :
    literal.start ≤ literal.stop ∧ IsBoundary code literal.start ∧ IsBoundary code literal.stop ∧
      (literal.stop < size code ↔ literal.start + constructorWindow < size code) := by
  obtain ⟨before, chunk, after, rfl, -, hchunk, -, hstart, hstop, -, -⟩ :=
    exists_chunk_of_fromConstructorFields h
  rw [hstart, hstop]
  have hfront : IsBoundary (before ++ chunk ++ after) (size before) := by
    rw [List.append_assoc]
    exact isBoundary_append _ _
  refine ⟨size_le_append _ _, hfront, isBoundary_append _ _, ?_⟩
  have hfits : size chunk ≤ constructorWindow := by
    rw [hchunk]
    exact size_takeBytes_le _ _
  constructor
  · intro hlt
    -- A text that fits would be the window as a whole.
    by_contra hshort
    simp only [size_append] at hlt hshort
    have hall : size (chunk ++ after) ≤ constructorWindow := by
      rw [size_append]
      omega
    have hsize := congrArg size (hchunk.trans (takeBytes_eq_self hall))
    rw [size_append] at hsize
    omega
  · intro hlong
    simp only [size_append] at hlong ⊢
    omega

/-! ### The metadata of a script -/

/-- The metadata of a script is what the chain resolves to in the code, with the same events. -/
theorem metadata_parse (source : List Char) :
    (Plugin.parse source).value.metadata =
        (metadataChain.resolve (stripComments source)).value.toOption ∧
      (Plugin.parse source).events = (metadataChain.resolve (stripComments source)).events := by
  constructor
  · rfl
  · rw [Plugin.parse, Plugin.ofCode, Traced.events_bind, Traced.events_pure, List.append_nil]

/-- The offsets of the metadata are places of the code without comments, in order. They are those of
two characters unless the metadata are fields behind a constructor call and the code ends within the
window that is searched for them. -/
theorem liesIn_metadata_iff {source : List Char}
    (h : (Plugin.parse source).value.metadata = some literal) :
    ∃ label ∈ metadataChain.labels,
      matchedStep? metadataChain.field (Plugin.parse source).events = some label ∧
        literal.start ≤ literal.stop ∧ IsBoundary (stripComments source) literal.start ∧
        IsBoundary (stripComments source) literal.stop ∧
        (literal.LiesIn (stripComments source) ↔ label ≠ "constructor-fields" ∨
          literal.start + constructorWindow < size (stripComments source)) := by
  obtain ⟨hmetadata, hevents⟩ := metadata_parse source
  have hresolve : (metadataChain.resolve (stripComments source)).value = .ok literal := by
    rw [hmetadata] at h
    cases hvalue : (metadataChain.resolve (stripComments source)).value with
    | ok other =>
      rw [hvalue] at h
      exact congrArg _ (Option.some.inj h)
    | error miss =>
      rw [hvalue] at h
      exact absurd h.symm (Option.some_ne_none literal)
  obtain ⟨step, hstep, hattempt, hlabel⟩ := Chain.exists_step_of_resolve hresolve
  refine ⟨step.label, List.mem_map_of_mem hstep, hevents ▸ hlabel, ?_⟩
  have hwhole (hlies : literal.LiesIn (stripComments source))
      (hother : step.label ≠ "constructor-fields") :
      literal.start ≤ literal.stop ∧ IsBoundary (stripComments source) literal.start ∧
        IsBoundary (stripComments source) literal.stop ∧
        (literal.LiesIn (stripComments source) ↔ step.label ≠ "constructor-fields" ∨
          literal.start + constructorWindow < size (stripComments source)) :=
    ⟨hlies.start_le, hlies.start_isBoundary, hlies.stop_isBoundary,
      ⟨fun _ ↦ .inl hother, fun _ ↦ hlies⟩⟩
  simp only [metadataChain, List.mem_cons, List.not_mem_nil, or_false] at hstep
  rcases hstep with rfl | rfl | rfl | rfl | rfl
  · exact hwhole (isBlockOf_of_fromConstructorCall hattempt).1.liesIn (by decide)
  · obtain ⟨hle, hstart, hstop, hlt⟩ := offsets_of_fromConstructorFields hattempt
    refine ⟨hle, hstart, hstop, ?_⟩
    rw [ObjectLiteral.liesIn_iff hle hstart hstop, hlt]
    exact ⟨.inr, fun h ↦ h.resolve_left fun hne ↦ hne rfl⟩
  · exact hwhole (liesIn_of_fromCandidate endsWith_exportDefault hattempt) (by decide)
  · exact hwhole (liesIn_of_fromCandidate endsWith_lineStartObject hattempt) (by decide)
  · exact hwhole (liesIn_of_fromCandidate endsWith_minifiedObject hattempt) (by decide)

/-- A literal that ends the code lies in it, with the offsets that it has without the comment. -/
theorem liesIn_of_call_at_end :
    let source := "é/**/new P(\x7bid:'p'\x7d".toList
    ∃ literal, (Plugin.parse source).value.metadata = some literal ∧
      literal.LiesIn (stripComments source) := by
  intro source
  have hsome : (Plugin.parse source).value.metadata.isSome = true := by decide +kernel
  obtain ⟨literal, hliteral⟩ := Option.isSome_iff_exists.mp hsome
  have hcall : matchedStep? metadataChain.field (Plugin.parse source).events =
      some "constructor-call" := by decide +kernel
  obtain ⟨label, -, hlabel, -, -, -, hlies⟩ := liesIn_metadata_iff hliteral
  obtain rfl := Option.some.inj (hcall.symm.trans hlabel)
  exact ⟨literal, hliteral, hlies.mpr (.inl (by decide))⟩

/-- The metadata of a call that is cut off end where no character stands. -/
theorem not_liesIn_of_cut_call :
    let source := "new P(\x7b\"id\":\"a\"".toList
    ∃ literal, (Plugin.parse source).value.metadata = some literal ∧
      ¬ literal.LiesIn (stripComments source) := by
  intro source
  have hstop : (Plugin.parse source).value.metadata.map ObjectLiteral.stop =
      some (size (stripComments source)) := by decide +kernel
  obtain ⟨literal, hliteral, hend⟩ := Option.map_eq_some_iff.mp hstop
  exact ⟨literal, hliteral, fun hlies ↦ hlies.stop_lt.ne hend⟩

end PluginRecovery.Script
