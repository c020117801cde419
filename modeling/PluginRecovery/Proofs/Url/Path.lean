import Mathlib
import PluginRecovery.Proofs.Text.Percent
import PluginRecovery.Proofs.Text.Trimming
import PluginRecovery.Url.Path

/-!
Paths as they are written. A segment is encoded when it is placed, and no slash is in it, since it
was between slashes; the dot segments only take segments away. So a path that was read is `Laid`
behind its authority: either each of its segments begins and ends where it was put, or it has none
and does not begin with a slash.
-/

set_option autoImplicit false
set_option relaxedAutoImplicit false

namespace PluginRecovery.Url

open PluginRecovery.Text

/-! ### Segments -/

/-- A text that is a segment of a path as it is written. -/
def IsSegment (segment : List Char) : Prop :=
  ∀ c ∈ segment, inPath c = true ∧ c ≠ '/'

theorem isSegment_nil : IsSegment [] :=
  List.forall_mem_nil _

theorem slash_not_mem_normalDrive {segment : List Char} (h : '/' ∉ segment) :
    '/' ∉ normalDrive segment := by
  rw [normalDrive]
  split_ifs
  · rw [List.mem_append, not_or]
    exact ⟨fun hmem ↦ h (List.mem_of_mem_take hmem), by decide⟩
  · exact h

/-- What is placed is a segment, unless it has a slash. -/
theorem isSegment_placed {segment : List Char} (h : '/' ∉ segment) (file : Bool)
    (before : List (List Char)) : IsSegment (placed file before segment) := by
  have hescape : (escapeCharacters.all fun c ↦ inPath c && c != '/') = true := by decide
  have hslash : '/' ∉ (if file && before.isEmpty then normalDrive segment else segment) := by
    split_ifs
    · exact slash_not_mem_normalDrive h
    · exact h
  intro c hc
  rcases mem_percentEncode hc with ⟨hmem, hkept⟩ | hc
  · exact ⟨hkept, fun heq ↦ hslash (heq ▸ hmem)⟩
  · simpa using List.all_eq_true.mp hescape c hc

theorem mem_of_mem_shorten {file : Bool} {before : List (List Char)} {segment : List Char}
    (h : segment ∈ shorten file before) : segment ∈ before := by
  unfold shorten at h
  split at h
  · exact h
  · split_ifs at h
    · exact h
    · exact absurd h List.not_mem_nil
  · exact List.mem_cons_of_mem _ h

/-- Following a text keeps what the segments are made of. -/
theorem isSegment_follow {file : Bool} {before segments : List (List Char)}
    (hbefore : ∀ segment ∈ before, IsSegment segment)
    (hsegments : ∀ segment ∈ segments, '/' ∉ segment) :
    ∀ segment ∈ follow file before segments, IsSegment segment := by
  have hshorten {before : List (List Char)} (h : ∀ segment ∈ before, IsSegment segment) :
      ∀ segment ∈ shorten file before, IsSegment segment :=
    fun segment hmem ↦ h segment (mem_of_mem_shorten hmem)
  fun_induction follow file before segments with
  | case1 before => exact hbefore
  | case2 before last hdouble => exact List.forall_mem_cons.mpr ⟨isSegment_nil, hshorten hbefore⟩
  | case3 before last hdouble hsingle => exact List.forall_mem_cons.mpr ⟨isSegment_nil, hbefore⟩
  | case4 before last hdouble hsingle =>
    have hlast := hsegments last List.mem_cons_self
    exact List.forall_mem_cons.mpr ⟨isSegment_placed hlast _ _, hbefore⟩
  | case5 before segment rest hne hdouble ih =>
    exact ih (hshorten hbefore) (List.forall_mem_cons.mp hsegments).2
  | case6 before segment rest hne hdouble hsingle ih =>
    exact ih hbefore (List.forall_mem_cons.mp hsegments).2
  | case7 before segment rest hne hdouble hsingle ih =>
    obtain ⟨hsegment, hrest⟩ := List.forall_mem_cons.mp hsegments
    exact ih (List.forall_mem_cons.mpr ⟨isSegment_placed hsegment _ _, hbefore⟩) hrest

/-- No segment has a slash. -/
theorem slash_not_mem_of_mem_segmentsOf {special : Bool} {text : List Char} :
    ∀ segment ∈ segmentsOf special text, '/' ∉ segment := by
  intro segment hsegment hmem
  have hslash : isSlash special '/' = false := eq_false_of_mem_splitOnP hsegment '/' hmem
  exact absurd hslash (by simp [isSlash])

/-! ### Paths -/

/-- The path stands behind an authority, or without one, so that it is found again as it is. -/
inductive Laid : Option Host → UrlPath → Prop
  | segments {host : Option Host} {list : List String}
    (h : ∀ segment ∈ list, IsSegment segment.toList) : Laid host (.segments list)
  | flat {text : String} (h : ∀ c ∈ text.toList.head?, ' ' ≤ c ∧ c ≠ '/') : Laid none (.flat text)

/-- All segments of a path that is laid are segments as they are written. -/
theorem Laid.isSegment {host : Option Host} {path : UrlPath} (h : Laid host path) :
    ∀ segment ∈ path.list, IsSegment segment.toList := by
  cases h with
  | segments h => exact h
  | flat h => exact List.forall_mem_nil _

/-- A path that is read behind given segments is laid. -/
theorem laid_pathFrom (host : Option Host) (scheme : String) {given : List String}
    (h : ∀ segment ∈ given, IsSegment segment.toList) (text : List Char) :
    Laid host (pathFrom scheme given text) := by
  have hall : ∀ segment ∈ (follow (scheme == "file") (given.map String.toList).reverse
      (segmentsOf (isSpecial scheme) text)).reverse, IsSegment segment := by
    refine fun segment hmem ↦ isSegment_follow (fun segment hmem ↦ ?_)
      slash_not_mem_of_mem_segmentsOf segment (List.mem_reverse.mp hmem)
    obtain ⟨first, hfirst, rfl⟩ := List.mem_map.mp (List.mem_reverse.mp hmem)
    exact h first hfirst
  unfold pathFrom
  dsimp only
  generalize (follow (scheme == "file") _ _).reverse = all at hall
  have hkept : ∀ segment ∈ (if scheme == "file" then all.dropWhile List.isEmpty else all),
      IsSegment segment := by
    split_ifs
    · exact fun segment hmem ↦ hall segment ((List.dropWhile_sublist _).subset hmem)
    · exact hall
  generalize (if scheme == "file" then all.dropWhile List.isEmpty else all) = kept at hkept
  refine .segments (List.forall_mem_map.mpr fun segment hmem ↦ ?_)
  rw [String.toList_ofList]
  split_ifs at hmem
  · exact List.mem_singleton.mp hmem ▸ isSegment_nil
  · exact hkept segment hmem

theorem laid_rootPath (host : Option Host) (scheme : String) (text : List Char) :
    Laid host (rootPath scheme text) := by
  unfold rootPath
  split
  · split_ifs
    · exact .segments fun segment hmem ↦ List.mem_singleton.mp hmem ▸ isSegment_nil
    · exact .segments (List.forall_mem_nil _)
  · exact laid_pathFrom host scheme (List.forall_mem_nil _) _

/-- A text without a slash in front is laid as a path without segments. -/
theorem laid_flat {text : List Char} (h : text.head? ≠ some '/') :
    Laid none (.flat (String.ofList (percentEncode isPlain text))) := by
  refine .flat fun c hc ↦ ?_
  rw [String.toList_ofList] at hc
  cases text with
  | nil => exact absurd hc (by simp [percentEncode])
  | cons first rest =>
    rw [head?_percentEncode] at hc
    obtain rfl := Option.some.inj hc
    split_ifs with hplain
    · rw [isPlain, Bool.and_eq_true, decide_eq_true_eq] at hplain
      exact ⟨hplain.1, fun heq ↦ h (congrArg some heq)⟩
    · decide

end PluginRecovery.Url
