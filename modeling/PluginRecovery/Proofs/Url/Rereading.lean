import Mathlib
import PluginRecovery.Proofs.Url.Validity

/-!
Addresses that are read are read again as they are written (`exists_read?_text`). The text of a
valid address has a body of which the authority and the segments are found again, since no sign that
ends one is in it; a query and a fragment do not bear on whether an address is read. Of an address
without a host, the path does not begin with two slashes, for which a dot is put before an empty
segment.
-/

set_option autoImplicit false
set_option relaxedAutoImplicit false

namespace PluginRecovery.Url

open PluginRecovery.Text

/-! ### Addresses as they are written -/

theorem toList_text_segments (list : List String) :
    (UrlPath.segments list).text.toList = list.flatMap fun segment ↦ '/' :: segment.toList := by
  have hslash : "/".toList = ['/'] := String.toList_ofList
  rw [UrlPath.text, String.toList_join, List.flatMap_map]
  simp only [String.toList_append, hslash, List.singleton_append]

/-- The text of an address: behind the path there is nothing, or the sign of a query or a fragment
comes first. -/
theorem exists_toList_text (url : Url) : ∃ rest,
    url.text.toList =
      url.scheme.toList ++ ':' :: (url.authority.toList ++ url.path.text.toList ++ rest) ∧
        ∀ c ∈ rest.head?, c = '?' ∨ c = '#' := by
  have hcolon : ":".toList = [':'] := String.toList_ofList
  have hquery : "?".toList = ['?'] := String.toList_ofList
  have hfragment : "#".toList = ['#'] := String.toList_ofList
  refine ⟨(url.query.elim [] fun query ↦ '?' :: query.toList) ++
    url.fragment.elim [] fun fragment ↦ '#' :: fragment.toList, ?_, ?_⟩
  · rw [text]
    cases url.query <;> cases url.fragment <;>
      simp [String.toList_append, hcolon, hquery, hfragment]
  · cases url.query <;> cases url.fragment <;> simp

theorem authority_of_host {url : Url} {host : Host} (h : url.host = some host) :
    url.authority =
      "//" ++ Authority.text ⟨url.username, url.password, host, url.port⟩ := by
  rw [authority, h]
  simp only [Authority.text, credentials, String.append_assoc]
  rfl

/-- What an authority is written with may stand in the body of a reference. -/
theorem inBody_of_inAuthority {c : Char} (h : inAuthority c = true) : InBody c := by
  rw [inAuthority, Bool.and_eq_true, decide_eq_true_eq] at h
  refine ⟨h.1, ?_, ?_⟩
  all_goals
    rintro rfl
    exact absurd h.2 (by decide)

theorem inBody_of_inPath {c : Char} (h : inPath c = true) : InBody c := by
  have hplain : isPlain c = true := by
    rw [inPath, inFragment, Bool.and_eq_true, Bool.and_eq_true] at h
    exact h.1.1
  have hall : inPath c = true → InBody c :=
    forall_of_ofNat (P := fun c ↦ inPath c = true → InBody c) (by decide)
      (toNat_lt_of_isPlain hplain)
  exact hall h

theorem inBody_of_mem_segments {list : List String}
    (h : ∀ segment ∈ list, IsSegment segment.toList) :
    ∀ c ∈ (UrlPath.segments list).text.toList, InBody c := by
  intro c hc
  rw [toList_text_segments] at hc
  obtain ⟨segment, hsegment, hc⟩ := List.mem_flatMap.mp hc
  rcases List.mem_cons.mp hc with rfl | hc
  · decide
  · exact inBody_of_inPath (h segment hsegment c hc).1

theorem eq_slash_of_mem_head? {list : List String} :
    ∀ c ∈ (UrlPath.segments list).text.toList.head?, c = '/' := by
  rw [toList_text_segments]
  cases list <;> simp

/-- The path of an address without a host does not begin with two slashes, and nothing is between it
and the scheme but a dot that keeps it from doing so. -/
theorem ne_slashes_of_segments {list : List String} (h : ∀ segment ∈ list, IsSegment segment.toList)
    {url : Url} (hhost : url.host = none) (hpath : url.path = .segments list) (rest : List Char) :
    url.authority.toList ++ url.path.text.toList ≠ '/' :: '/' :: rest := by
  rw [authority, hhost, hpath, toList_text_segments]
  split
  · next heq => exact absurd heq.symm (Option.some_ne_none _)
  · have hdot : "/.".toList = ['/', '.'] := String.toList_ofList
    simp [hdot]
  · next hnot =>
    intro heq
    cases list with
    | nil => exact absurd heq (by simp)
    | cons first list =>
      rw [List.flatMap_cons, List.cons_append, String.toList_empty, List.nil_append,
        List.cons.injEq] at heq
      cases hfirst : first.toList with
      | nil =>
        cases list with
        | nil => exact absurd heq.2 (by simp [hfirst])
        | cons second list =>
          obtain rfl := String.toList_eq_nil_iff.mp hfirst
          exact hnot second list rfl
      | cons c segment =>
        rw [hfirst, List.cons_append, List.cons.injEq] at heq
        exact (h first List.mem_cons_self c (hfirst ▸ List.mem_cons_self)).2 heq.2.1

/-! ### Readings -/

section Readings

variable {scheme : String} {r : Reference} {front path : List Char}

theorem takeWhile_inAuthority (hfront : ∀ c ∈ front, inAuthority c = true)
    (hpath : ∀ c ∈ path.head?, c = '/') (special : Bool) :
    (front ++ path).takeWhile (fun c ↦ !isSlash special c) = front := by
  have hno : ∀ c ∈ front, (!isSlash special c) = true := by
    intro c hc
    have hslash : c ≠ '/' := fun heq ↦ absurd (heq ▸ hfront c hc) (by decide)
    have hback : c ≠ '\\' := fun heq ↦ absurd (heq ▸ hfront c hc) (by decide)
    simp [isSlash, hslash, hback]
  rw [List.takeWhile_append_of_pos hno]
  cases path with
  | nil => rw [List.takeWhile_nil, List.append_nil]
  | cons c path =>
    obtain rfl := hpath c rfl
    rw [List.takeWhile_cons_of_neg (by simp [isSlash]), List.append_nil]

/-- An authority with a path behind it can be read if the authority can. -/
theorem exists_withAuthority (hfront : ∀ c ∈ front, inAuthority c = true)
    (hpath : ∀ c ∈ path.head?, c = '/') (hreads : ∃ again, authority? scheme front = .ok again) :
    ∃ again, withAuthority scheme r (front ++ path) = .ok again := by
  obtain ⟨a, ha⟩ := hreads
  rw [withAuthority, takeWhile_inAuthority hfront hpath, ha]
  exact ⟨_, rfl⟩

theorem exists_plainUrl (hbody : ∀ rest, r.body ≠ '/' :: '/' :: rest) :
    ∃ again, plainUrl scheme r = .ok again := by
  unfold plainUrl
  split
  · next rest hrest => exact absurd hrest (hbody rest)
  all_goals exact ⟨_, rfl⟩

theorem ofReference_plain (hread : r.scheme = some scheme) (hplain : isSpecial scheme = false) :
    ofReference none r = plainUrl scheme r := by
  unfold ofReference
  rw [hread]
  split
  · next hfile =>
    obtain rfl := Option.some.inj hfile
    exact absurd hplain (by decide)
  · next other _ hother =>
    obtain rfl := Option.some.inj hother
    rw [hplain]
    rfl
  all_goals
    next hnone _ => exact absurd hnone (Option.some_ne_none _)

theorem ofReference_special (hread : r.scheme = some scheme) (hspecial : isSpecial scheme = true)
    (hfile : scheme ≠ "file") : ofReference none r = specialUrl none scheme r := by
  unfold ofReference
  rw [hread]
  split
  · next heq => exact absurd (Option.some.inj heq) hfile
  · next other _ hother =>
    obtain rfl := Option.some.inj hother
    rw [hspecial]
    rfl
  all_goals
    next hnone _ => exact absurd hnone (Option.some_ne_none _)

theorem ne_nil_of_authority? {text : List Char} {a : Authority} (hspecial : isSpecial scheme = true)
    (h : authority? scheme text = .ok a) : text ≠ [] := by
  rintro rfl
  have hport : hostPort? scheme [] = .error .emptyHost := by
    rw [hostPort?_eq, splitPort, hspecial]
    rfl
  unfold authority? at h
  dsimp only at h
  rw [splitCredentials_of_not_mem (by simp), hport] at h
  exact absurd h (by simp [bind, Except.bind])

/-- The address of a file is read when its host is. -/
theorem exists_ofReference_file (hread : r.scheme = some "file")
    (hbody : r.body = '/' :: '/' :: (front ++ path)) (hfront : ∀ c ∈ front, inAuthority c = true)
    (hpath : ∀ c ∈ path.head?, c = '/') (hreads : ∃ again, fileHost? front = .ok again) :
    ∃ again, ofReference none r = .ok again := by
  obtain ⟨host, hhost⟩ := hreads
  have hfile : ofReference none r = fileUrl none r := by
    unfold ofReference
    rw [hread]
    rfl
  rw [hfile]
  unfold fileUrl
  rw [hbody]
  dsimp only
  have hslash : isSlash true '/' = true := rfl
  rw [if_pos hslash, if_neg (by rw [hslash]; decide), takeWhile_inAuthority hfront hpath, hhost]
  split_ifs
  all_goals exact ⟨_, rfl⟩

/-- The address of a site is read when its authority is. -/
theorem exists_ofReference_site (hread : r.scheme = some scheme) (hfile : scheme ≠ "file")
    (hbody : r.body = '/' :: '/' :: (front ++ path)) (hfront : ∀ c ∈ front, inAuthority c = true)
    (hpath : ∀ c ∈ path.head?, c = '/') (hreads : ∃ again, authority? scheme front = .ok again) :
    ∃ again, ofReference none r = .ok again := by
  have hwith := exists_withAuthority (r := r) hfront hpath hreads
  cases hspecial : isSpecial scheme with
  | false =>
    rw [ofReference_plain hread hspecial, plainUrl, hbody]
    exact hwith
  | true =>
    obtain ⟨a, ha⟩ := hreads
    -- the authority is not empty and begins with no slash, so the slashes before it are two
    obtain ⟨c, others, rfl⟩ := List.exists_cons_of_ne_nil (ne_nil_of_authority? hspecial ha)
    have hslash : c ≠ '/' := fun heq ↦ absurd (heq ▸ hfront c List.mem_cons_self) (by decide)
    have hback : c ≠ '\\' := fun heq ↦ absurd (heq ▸ hfront c List.mem_cons_self) (by decide)
    have hslashes : ('/' :: '/' :: (c :: others ++ path)).dropWhile (isSlash true) =
        c :: others ++ path := by
      simp [isSlash, hslash, hback]
    rw [ofReference_special hread hspecial hfile, specialUrl, hbody, hslashes]
    exact hwith

end Readings

/-! ### Texts that are read again -/

section Texts

variable {url : Url} {list : List String}

/-- An address with segments is read again if its authority and they make a readable body. -/
theorem exists_read?_of_segments (hscheme : IsScheme url.scheme) (hpath : url.path = .segments list)
    (hsegments : ∀ segment ∈ list, IsSegment segment.toList)
    (hauthority : ∀ c ∈ url.authority.toList, InBody c)
    (hreads : ∀ r : Reference, r.scheme = some url.scheme →
      r.body = url.authority.toList ++ url.path.text.toList →
        ∃ again, ofReference none r = .ok again) :
    ∃ again, read? url.text = .ok again := by
  obtain ⟨rest, htext, hrest⟩ := exists_toList_text url
  have hfront : ∀ c ∈ url.authority.toList ++ url.path.text.toList, InBody c :=
    List.forall_mem_append.mpr ⟨hauthority, hpath ▸ inBody_of_mem_segments hsegments⟩
  obtain ⟨hread, hbody⟩ := ofText_of_inBody hscheme hfront hrest
  rw [read?, htext]
  exact hreads _ hread hbody

/-- An address without a host can be read again. -/
theorem exists_read?_of_nowhere (hscheme : IsScheme url.scheme)
    (hplain : isSpecial url.scheme = false) (hhost : url.host = none)
    (hpath : url.path = .segments list)
    (hsegments : ∀ segment ∈ list, IsSegment segment.toList) :
    ∃ again, read? url.text = .ok again := by
  refine exists_read?_of_segments hscheme hpath hsegments ?_ fun r hread hbody ↦ ?_
  · rw [authority, hhost, hpath]
    split
    · next heq => exact absurd heq.symm (Option.some_ne_none _)
    · have hdot : "/.".toList = ['/', '.'] := String.toList_ofList
      rw [hdot, List.forall_mem_cons, List.forall_mem_singleton]
      decide
    · exact List.forall_mem_nil _
  · rw [ofReference_plain hread hplain]
    exact exists_plainUrl fun rest ↦ hbody ▸ ne_slashes_of_segments hsegments hhost hpath rest

/-- An address with a host can be read again if what stands behind its scheme can. -/
theorem exists_read?_of_host {host : Host} (hscheme : IsScheme url.scheme)
    (hhost : url.host = some host) (hpath : url.path = .segments list)
    (hsegments : ∀ segment ∈ list, IsSegment segment.toList)
    (hchars : ∀ c ∈ (Authority.text ⟨url.username, url.password, host, url.port⟩).toList,
      inAuthority c = true)
    (hreads : ∀ r : Reference, r.scheme = some url.scheme → r.body = '/' :: '/' ::
      ((Authority.text ⟨url.username, url.password, host, url.port⟩).toList ++
        (UrlPath.segments list).text.toList) → ∃ again, ofReference none r = .ok again) :
    ∃ again, read? url.text = .ok again := by
  have hslashes : "//".toList = ['/', '/'] := String.toList_ofList
  have hauthority := congrArg String.toList (authority_of_host hhost)
  rw [String.toList_append, hslashes] at hauthority
  refine exists_read?_of_segments hscheme hpath hsegments ?_ fun r hread hbody ↦ hreads r hread ?_
  · rw [hauthority, List.cons_append, List.cons_append, List.forall_mem_cons, List.forall_mem_cons]
    exact ⟨by decide, by decide, fun c hc ↦ inBody_of_inAuthority (hchars c hc)⟩
  · rw [hbody, hauthority, hpath]
    rfl

/-- An address whose path has no segments can be read again. -/
theorem exists_read?_of_flat {text : String} (hscheme : IsScheme url.scheme)
    (hplain : isSpecial url.scheme = false) (hhost : url.host = none)
    (hpath : url.path = .flat text) (hhead : ∀ c ∈ text.toList.head?, ' ' ≤ c ∧ c ≠ '/') :
    ∃ again, read? url.text = .ok again := by
  obtain ⟨rest, htext, hrest⟩ := exists_toList_text url
  have hauthority : url.authority = "" := by
    rw [authority, hhost, hpath]
  have hfirst : ∀ c ∈ (text.toList ++ rest).head?, ' ' ≤ c ∧ c ≠ '/' := by
    cases htoList : text.toList with
    | nil =>
      intro c hc
      rcases hrest c hc with rfl | rfl
      all_goals decide
    | cons first others =>
      rw [htoList] at hhead
      exact hhead
  obtain ⟨more, hread, hbody, hmore⟩ := exists_body_ofText hscheme (List.forall_mem_nil _)
    fun c hc ↦ (hfirst c hc).1
  rw [read?, htext, hauthority, hpath, UrlPath.text, String.toList_empty, List.append_assoc,
    ofReference_plain hread hplain]
  refine exists_plainUrl fun others heq ↦ ?_
  rw [hbody, List.nil_append] at heq
  exact (hfirst '/' (hmore '/' (heq ▸ rfl)).1).2 rfl

end Texts

/-- An address that reading gives is read again as it is written. -/
theorem Valid.exists_read?_text {url : Url} (h : url.Valid) :
    ∃ again, read? url.text = .ok again := by
  obtain ⟨scheme, username, password, host, port, path, query, fragment⟩ := url
  obtain ⟨hscheme, hlocated, hlaid⟩ := h
  cases hlaid with
  | flat hhead =>
    cases hlocated with
    | nowhere hplain => exact exists_read?_of_flat hscheme hplain rfl rfl hhead
  | @segments _ list hsegments =>
    have hslash : ∀ c ∈ (UrlPath.segments list).text.toList.head?, c = '/' := eq_slash_of_mem_head?
    cases hlocated with
    | nowhere hplain => exact exists_read?_of_nowhere hscheme hplain rfl rfl hsegments
    | @file host hhost =>
      have hbare : Authority.text ⟨"", "", host, none⟩ = host.text := by
        simp [Authority.text, portText]
      refine exists_read?_of_host hscheme rfl rfl hsegments (hbare ▸ hhost.chars)
        fun r hread hbody ↦ ?_
      rw [hbare] at hbody
      exact exists_ofReference_file hread hbody hhost.chars hslash hhost.reads
    | site hfile hchars hreads =>
      exact exists_read?_of_host hscheme rfl rfl hsegments hchars fun r hread hbody ↦
        exists_ofReference_site hread hfile hbody hchars hslash hreads

end PluginRecovery.Url
