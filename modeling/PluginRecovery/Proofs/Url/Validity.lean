import Mathlib
import PluginRecovery.Proofs.Url.Authority
import PluginRecovery.Proofs.Url.Cutting
import PluginRecovery.Proofs.Url.Path

/-!
What all addresses have in common that are read, absolute ones and those relative to another. Such
an address is `Valid`: its scheme is one, it is `Located` where its scheme lets it be, at an
authority that can be read, and its path is `Laid` behind that. Each way to make an address relative
to another keeps what it does not write, so it keeps the address valid (`valid_of_ofReference`).
-/

set_option autoImplicit false
set_option relaxedAutoImplicit false

namespace PluginRecovery.Url

open PluginRecovery.Text

/-! ### Places of addresses -/

/-- A host that can be read as that of a file. -/
structure IsFileHost (host : Host) : Prop where
  chars : ∀ c ∈ host.text.toList, inAuthority c = true
  reads : ∃ again, fileHost? host.text.toList = .ok again

theorem isFileHost_here : IsFileHost (.name "") where
  chars := List.forall_mem_nil _
  reads := ⟨_, rfl⟩

/-- What is read as the host of a file is one. -/
theorem isFileHost_of_fileHost? {text : List Char} {host : Host} (h : fileHost? text = .ok host) :
    IsFileHost host := by
  rw [fileHost?] at h
  split_ifs at h
  · exact Except.ok.inj h ▸ isFileHost_here
  · obtain ⟨read, hread, h⟩ := exists_of_bind_eq_ok h
    obtain ⟨htext, hne, again, hagain⟩ := of_namedHost? hread
    have hhost := Except.ok.inj h
    split_ifs at hhost
    · exact hhost ▸ isFileHost_here
    · subst hhost
      refine ⟨fun c hc ↦ (htext.chars c hc).1, ?_⟩
      rw [fileHost?, if_neg, hagain]
      · exact ⟨_, rfl⟩
      · exact fun hempty ↦ hne (String.toList_eq_nil_iff.mp (List.isEmpty_iff.mp hempty))

/-- What stands between a scheme and a path: nothing, when the scheme lets that be, the host of a
file, or an authority. -/
inductive Located : (scheme username password : String) → Option Host → Option ℕ → Prop
  | nowhere {scheme : String} (hplain : isSpecial scheme = false) : Located scheme "" "" none none
  | file {host : Host} (hhost : IsFileHost host) : Located "file" "" "" (some host) none
  | site {scheme : String} {a : Authority} (hfile : scheme ≠ "file")
    (hchars : ∀ c ∈ a.text.toList, inAuthority c = true)
    (hreads : ∃ again, authority? scheme a.text.toList = .ok again) :
    Located scheme a.username a.password (some a.host) a.port

/-- A file has a host, and one that files may have. -/
theorem Located.exists_host {scheme username password : String} {host : Option Host}
    {port : Option ℕ} (h : Located scheme username password host port) (hfile : scheme = "file") :
    ∃ given, host = some given ∧ IsFileHost given := by
  cases h with
  | nowhere hplain => exact absurd (hfile ▸ hplain) (by decide)
  | file hhost => exact ⟨_, rfl, hhost⟩
  | site hne => exact absurd hfile hne

/-- An address as reading gives it. -/
structure Valid (url : Url) : Prop where
  scheme : IsScheme url.scheme
  located : Located url.scheme url.username url.password url.host url.port
  laid : Laid url.host url.path

/-! ### Addresses relative to another -/

section Relative

variable {base url : Url} {scheme : String} {r : Reference} {text : List Char}

/-- An address with an authority is valid. -/
theorem valid_of_withAuthority (hscheme : IsScheme scheme) (hfile : scheme ≠ "file")
    (h : withAuthority scheme r text = .ok url) : url.Valid := by
  obtain ⟨a, ha, h⟩ := exists_of_bind_eq_ok h
  obtain rfl := Except.ok.inj h
  obtain ⟨hchars, hreads⟩ := of_authority? ha
  exact ⟨hscheme, .site hfile hchars hreads, laid_rootPath _ scheme _⟩

theorem Valid.samePath (h : base.Valid) : (samePath base r).Valid :=
  ⟨h.scheme, h.located, h.laid⟩

theorem Valid.rooted (h : base.Valid) : (relative.rooted base r).Valid :=
  ⟨h.scheme, h.located, laid_rootPath _ base.scheme _⟩

theorem Valid.siblingOf (h : base.Valid) : (siblingOf base r).Valid := by
  refine ⟨h.scheme, h.located, laid_pathFrom _ base.scheme (List.forall_mem_map.mpr ?_) _⟩
  intro segment hsegment
  obtain ⟨first, hfirst, rfl⟩ := List.mem_map.mp
    (List.mem_reverse.mp (mem_of_mem_shorten (List.mem_reverse.mp hsegment)))
  rw [String.toList_ofList]
  exact h.laid.isSegment first hfirst

/-- Off files a relative reference leads from a valid address to a valid one. -/
theorem Valid.of_relative (hbase : base.Valid) (hfile : base.scheme ≠ "file")
    (h : relative base r = .ok url) : url.Valid := by
  unfold relative at h
  dsimp only at h
  split at h
  · exact Except.ok.inj h ▸ hbase.samePath
  · split_ifs at h
    · exact Except.ok.inj h ▸ hbase.rooted
    · exact Except.ok.inj h ▸ hbase.siblingOf
  · split_ifs at h
    · exact Except.ok.inj h ▸ hbase.siblingOf
    · exact Except.ok.inj h ▸ hbase.rooted
    all_goals exact valid_of_withAuthority hbase.scheme hfile h

end Relative

/-! ### Addresses of files -/

section Files

variable {base : Option Url} {url : Url} {r : Reference} {host : Host}

theorem isScheme_file : IsScheme "file" :=
  have hsplit : splitScheme? "file:".toList = some ("file", []) := by decide
  isScheme_of_splitScheme? hsplit

theorem valid_fileAt {path : UrlPath} (hhost : IsFileHost host) (hpath : Laid (some host) path) :
    (fileAt r host path).Valid :=
  ⟨isScheme_file, .file hhost, hpath⟩

theorem valid_rootedFile (hbase : ∀ other ∈ base, other.Valid ∧ other.scheme = "file") :
    (rootedFile base r).Valid := by
  have hinherited : ∀ other ∈ (if startsWithDrive (r.body.drop 1) then none else base),
      other.Valid ∧ other.scheme = "file" := by
    split_ifs
    · simp
    · exact hbase
  unfold rootedFile
  dsimp only
  generalize (if startsWithDrive (r.body.drop 1) then none else base) = inherited at hinherited
  split
  · next drive hdrive =>
    obtain ⟨other, hother, hhead⟩ :=
      Option.bind_eq_some_iff.mp (Option.filter_eq_some_iff.mp hdrive).1
    refine valid_fileAt isFileHost_here (laid_pathFrom _ _ (List.forall_mem_singleton.mpr ?_) _)
    exact (hinherited other hother).1.laid.isSegment drive (List.mem_of_mem_head? hhead)
  · refine valid_fileAt ?_ (laid_rootPath _ _ _)
    cases inherited with
    | none => exact isFileHost_here
    | some other =>
      obtain ⟨hvalid, hscheme⟩ := hinherited other rfl
      obtain ⟨given, hgiven, hhost⟩ := hvalid.located.exists_host hscheme
      rwa [Option.bind_some, hgiven, Option.getD_some]

/-- An address of a file is valid, read against a valid base of a file or against none. -/
theorem valid_of_fileUrl (hbase : ∀ other ∈ base, other.Valid ∧ other.scheme = "file")
    (h : fileUrl base r = .ok url) : url.Valid := by
  have hhere (text : List Char) : (fileAt r (.name "") (rootPath "file" text)).Valid :=
    valid_fileAt isFileHost_here (laid_rootPath _ _ _)
  unfold fileUrl at h
  dsimp only at h
  split at h
  · split at h
    · next other => exact Except.ok.inj h ▸ (hbase other rfl).1.samePath
    · exact Except.ok.inj h ▸ hhere []
  · split_ifs at h
    · split at h
      · split_ifs at h
        · exact Except.ok.inj h ▸ valid_rootedFile hbase
        · exact Except.ok.inj h ▸ hhere _
        · obtain ⟨host, hhost, h⟩ := exists_of_bind_eq_ok h
          exact Except.ok.inj h ▸ valid_fileAt (isFileHost_of_fileHost? hhost) (laid_rootPath _ _ _)
      · exact Except.ok.inj h ▸ valid_rootedFile hbase
    · split at h
      all_goals exact Except.ok.inj h ▸ hhere _
    · split at h
      · next other => exact Except.ok.inj h ▸ (hbase other rfl).1.siblingOf
      · exact Except.ok.inj h ▸ hhere _

end Files

/-! ### Addresses that are read -/

section Reading

variable {base : Option Url} {url : Url} {scheme : String} {r : Reference}

theorem valid_of_plainUrl (hscheme : IsScheme scheme) (hplain : isSpecial scheme = false)
    (h : plainUrl scheme r = .ok url) : url.Valid := by
  have hfile : scheme ≠ "file" := by
    rintro rfl
    exact absurd hplain (by decide)
  unfold plainUrl at h
  split at h
  · exact valid_of_withAuthority hscheme hfile h
  · exact Except.ok.inj h ▸ ⟨hscheme, .nowhere hplain, laid_rootPath _ scheme _⟩
  · next hslash =>
    refine Except.ok.inj h ▸ ⟨hscheme, .nowhere hplain, laid_flat fun hhead ↦ ?_⟩
    obtain ⟨rest, hrest⟩ := List.head?_eq_some_iff.mp hhead
    exact hslash rest hrest

/-- An address of a special scheme other than that of files is valid if the base is. -/
theorem valid_of_specialUrl (hbase : ∀ other ∈ base, other.Valid) (hscheme : IsScheme scheme)
    (hfile : scheme ≠ "file") (h : specialUrl base scheme r = .ok url) : url.Valid := by
  unfold specialUrl at h
  dsimp only at h
  split at h
  · next other =>
    split_ifs at h with hrelative
    · rw [Bool.and_eq_true, beq_iff_eq] at hrelative
      exact (hbase other rfl).of_relative (hrelative.1 ▸ hfile) h
    · exact valid_of_withAuthority hscheme hfile h
  · exact valid_of_withAuthority hscheme hfile h

theorem Valid.of_relativeUrl {base : Url} (hbase : base.Valid) (h : relativeUrl base r = .ok url) :
    url.Valid := by
  unfold relativeUrl at h
  split at h
  · split_ifs at h
    exact Except.ok.inj h ▸ hbase.samePath
  · split_ifs at h with hfile
    · refine valid_of_fileUrl (fun other hother ↦ ?_) h
      obtain rfl := Option.some.inj hother
      exact ⟨hbase, eq_of_beq hfile⟩
    · exact hbase.of_relative (fun heq ↦ hfile (beq_iff_eq.mpr heq)) h

/-- Whatever is read against a valid base is valid. -/
theorem valid_of_ofReference (hbase : ∀ other ∈ base, other.Valid)
    (hscheme : ∀ scheme ∈ r.scheme, IsScheme scheme) (h : ofReference base r = .ok url) :
    url.Valid := by
  unfold ofReference at h
  split at h
  · refine valid_of_fileUrl (fun other hother ↦ ?_) h
    obtain ⟨hmem, hfile⟩ := Option.filter_eq_some_iff.mp hother
    exact ⟨hbase other hmem, eq_of_beq hfile⟩
  · next scheme hfile hread =>
    have hname := hscheme scheme hread
    split_ifs at h with hspecial
    · exact valid_of_specialUrl hbase hname (hfile) h
    · exact valid_of_plainUrl hname (Bool.eq_false_iff.mpr hspecial) h
  · next other hread => exact (hbase other rfl).of_relativeUrl h
  · exact absurd h (by simp)

/-- Whatever is read without a base is valid. -/
theorem valid_of_read? {text : String} (h : read? text = .ok url) : url.Valid :=
  valid_of_ofReference (by simp) (fun _ ↦ isScheme_of_ofText) h

/-- Whatever is joined to a valid address is valid. -/
theorem Valid.of_join {base : Url} {text : String} (hbase : base.Valid)
    (h : base.join text = .ok url) : url.Valid :=
  valid_of_ofReference (fun _ hother ↦ Option.some.inj hother ▸ hbase)
    (fun _ ↦ isScheme_of_ofText) h

end Reading

end PluginRecovery.Url
