import Mathlib
import PluginRecovery.Analysis.Analyzer
import PluginRecovery.Proofs.Pattern.Matching
import PluginRecovery.Proofs.Recipe.Identity
import PluginRecovery.Proofs.Trace.Chain

/-!
The identity that a script's whole text tells. Each field that is found on its own is checked, so
an identity without a cluster is normalized. The version and the address of a cluster are taken as
they stand: all that its pattern says about them is that they are not empty
(`ne_nil_of_cluster`). So the identity is normalized exactly when those of the cluster, if there is
one, would pass the checks (`identity_wholeText`).
-/

set_option autoImplicit false
set_option relaxedAutoImplicit false

namespace PluginRecovery

open PluginRecovery.Text PluginRecovery.Pattern

theorem Scope.identity_recipe (scope : Scope) :
    scope.recipe.value.identity = scope.identity.value :=
  rfl

namespace WholeText

/-! ### Clusters -/

/-- What a quoted text has between its quotes. -/
def quotedBody : Pattern :=
  oneOrMore (!isQuoteMark ·)

/-- There is something between the quotes that the patterns look for. -/
theorem ne_nil_of_accepts_quotedBody {text : List Char} (h : quotedBody.Accepts text) :
    text ≠ [] := by
  have hlength : 1 ≤ text.length := h.of_many.2.1
  exact List.ne_nil_of_length_pos hlength

/-- The groups of the clusters hold quoted texts: four in the first two forms, two in the last. -/
theorem bodies_clusters : clusters.map (fun form ↦ form.pattern.keeps.map Prod.snd) =
    [List.replicate 4 quotedBody, List.replicate 4 quotedBody, List.replicate 2 quotedBody] :=
  rfl

/-- Each group of a cluster is a quoted text. -/
theorem eq_quotedBody_of_mem_keeps {form : Form} (hform : form ∈ clusters) {number : ℕ}
    {body : Pattern} (h : (number, body) ∈ form.pattern.keeps) : body = quotedBody := by
  have hbody : body ∈ form.pattern.keeps.map Prod.snd := List.mem_map_of_mem (f := Prod.snd) h
  have hbodies := List.mem_map_of_mem (f := fun form ↦ form.pattern.keeps.map Prod.snd) hform
  rw [bodies_clusters] at hbodies
  simp only [List.mem_cons, List.not_mem_nil, or_false] at hbodies
  rcases hbodies with hbodies | hbodies | hbodies <;>
    exact List.eq_of_mem_replicate (hbodies ▸ hbody)

/-- A cluster is what one of the forms finds, and its name is long enough. -/
theorem exists_search_of_cluster {source : List Char} {cluster : Cluster}
    (h : clusterChain.first? source = some cluster) :
    isLongName cluster.name = true ∧ ∃ form ∈ clusters, ∃ found,
      form.pattern.search? source = some found ∧
      cluster.version = (found.group? 3).map (fun span ↦ String.ofList span.text) ∧
      cluster.site = (found.group? 4).map (fun span ↦ String.ofList span.text) := by
  rw [Chain.first?, clusterChain, List.findSome?_map] at h
  obtain ⟨form, hform, hattempt⟩ := List.exists_of_findSome?_eq_some h
  simp only [Function.comp_apply, clusterStep] at hattempt
  cases hfound : form.pattern.search? source with
  | none => simp [hfound, Except.toOption] at hattempt
  | some found =>
    simp only [hfound] at hattempt
    split_ifs at hattempt with hname
    · obtain rfl := Option.some.inj hattempt
      exact ⟨hname, form, hform, found, hfound, rfl, rfl⟩
    · simp [Except.toOption] at hattempt

/-- The version and the address of a cluster are not empty. -/
theorem ne_nil_of_cluster {source : List Char} {cluster : Cluster}
    (h : clusterChain.first? source = some cluster) :
    (∀ version ∈ cluster.version, version.toList ≠ []) ∧
      ∀ site ∈ cluster.site, site.toList ≠ [] := by
  obtain ⟨-, form, hform, found, hfound, hversion, hsite⟩ := exists_search_of_cluster h
  have hgroup {number : ℕ} {text : String}
      (h : (found.group? number).map (fun span ↦ String.ofList span.text) = some text) :
      text.toList ≠ [] := by
    obtain ⟨span, hspan, rfl⟩ := Option.map_eq_some_iff.mp h
    obtain ⟨body, hbody, haccepts⟩ := exists_accepts_of_group? hfound hspan
    rw [eq_quotedBody_of_mem_keeps hform hbody] at haccepts
    rw [String.toList_ofList]
    exact ne_nil_of_accepts_quotedBody haccepts
  rw [hversion, hsite]
  exact ⟨fun _ h ↦ hgroup h, fun _ h ↦ hgroup h⟩

/-- The language near a cluster is two to five letters, which is what a language may be. -/
theorem keeps_clusterLang : clusterLang.keeps =
    [(1, many (fun c ↦ 'a' ≤ c && c ≤ 'z') 2 (some 5) true)] :=
  rfl

/-- The language near a cluster has two to five characters. -/
theorem isLang_of_capture?_clusterLang {context : List Char} {lang : String}
    (h : clusterLang.capture? context = some lang) : Identity.isLang lang = true := by
  obtain ⟨body, hbody, haccepts⟩ := exists_accepts_of_capture? (by rfl) h
  rw [keeps_clusterLang, List.mem_singleton] at hbody
  obtain ⟨-, rfl⟩ := Prod.mk.inj hbody
  obtain ⟨-, hleast, hmost⟩ := haccepts.of_many
  exact Identity.isLang_iff.mpr ⟨hleast, hmost 5 rfl⟩

/-! ### The identity -/

/-- The identity is that of the first cluster, or that of the single fields. -/
theorem value_identity (source : List Char) :
    (identity source).value =
      match clusterChain.first? source with
      | some cluster => cluster.identity source
      | none => (identityOfFields source).value := by
  rw [identity, Traced.value_bind, ← Chain.toOption_resolve]
  cases (clusterChain.resolve source).value with
  | ok cluster => rfl
  | error miss => simp only [Except.toOption]

/-- Without a cluster the whole text gives a normalized identity. -/
theorem isNormalized_identityOfFields (source : List Char) :
    (identityOfFields source).value.IsNormalized := by
  rw [identityOfFields]
  -- With rewriting steps in the proof, the kernel need not run the chains to compare the sides.
  simp -implicitDefEqProofs only [Traced.value_bind, Traced.value_pure, Chain.value_resolveOr]
  exact Identity.isNormalized_of_found (fun _ h ↦ Chain.accepts_of_first?_ofForms h)
    (fun _ h ↦ Chain.accepts_of_first?_ofForms h) (fun _ h ↦ Chain.accepts_of_first?_ofForms h)
    _ _ _

/-- The identity of a cluster is normalized exactly when the version and the address in it pass the
checks of single fields. -/
theorem isNormalized_identity_iff {source : List Char} {cluster : Cluster}
    (h : clusterChain.first? source = some cluster) :
    (cluster.identity source).IsNormalized ↔
      (∀ version ∈ cluster.version, Identity.isVersion version = true) ∧
        ∀ site ∈ cluster.site, startsWithHttp site = true := by
  constructor
  · intro hnormalized
    constructor
    · intro version hversion
      have hvalue : (cluster.identity source).version = version := by
        rw [Cluster.identity, Option.mem_def.mp hversion, Option.getD_some]
      rw [Identity.isVersion_iff, ← hvalue]
      exact hnormalized.version
    · intro site hsite
      have hvalue : (cluster.identity source).baseUrl = site := by
        rw [Cluster.identity, Option.mem_def.mp hsite, Option.getD_some]
      have hne : site ≠ "" := by
        rintro rfl
        exact (ne_nil_of_cluster h).2 "" hsite rfl
      have hurl := hnormalized.baseUrl
      rw [hvalue] at hurl
      exact Identity.startsWithHttp_iff.mpr (hurl.resolve_left hne)
  · rintro ⟨hversion, hsite⟩
    rw [Cluster.identity]
    exact Identity.isNormalized_of_found hversion (fun _ h ↦ isLang_of_capture?_clusterLang h)
      hsite _ _ _

/-- The version of a cluster's identity is not empty. -/
theorem version_identity_ne_nil {source : List Char} {cluster : Cluster}
    (h : clusterChain.first? source = some cluster) :
    (cluster.identity source).version.toList ≠ [] := by
  rw [Cluster.identity]
  cases hversion : cluster.version with
  | none => exact (Identity.isVersion_iff.mp Identity.isVersion_default).1
  | some version => exact (ne_nil_of_cluster h).1 version hversion

/-- The language of a cluster's identity has two to five characters. -/
theorem isLang_identity (source : List Char) (cluster : Cluster) :
    Identity.isLang (cluster.identity source).lang = true := by
  rw [Cluster.identity]
  cases hlang : clusterLang.capture?
      (window source (cluster.start - clusterContext) (cluster.stop + clusterContext)) with
  | none => exact Identity.isLang_default
  | some lang => exact isLang_of_capture?_clusterLang hlang

/-- Whatever the text, the version is not empty and the language has two to five characters. The
identity is normalized exactly when the version and the address of the cluster that it is taken
from, if it is taken from one, pass the checks of single fields. -/
theorem identity_wholeText (source : List Char) :
    let identity := (Strategy.regex.analyze source).value.identity
    identity.version.toList ≠ [] ∧
      (2 ≤ identity.lang.toList.length ∧ identity.lang.toList.length ≤ 5) ∧
      (identity.IsNormalized ↔ ∀ cluster ∈ clusterChain.first? source,
        (∀ version ∈ cluster.version, Identity.isVersion version = true) ∧
          ∀ site ∈ cluster.site, startsWithHttp site = true) := by
  have hvalue : (Strategy.regex.analyze source).value.identity = (identity source).value :=
    (Scope.wholeText source).identity_recipe
  rw [hvalue, value_identity]
  cases hcluster : clusterChain.first? source with
  | some cluster =>
    have hlang := Identity.isLang_iff.mp (isLang_identity source cluster)
    refine ⟨version_identity_ne_nil hcluster, hlang, ?_⟩
    simpa using isNormalized_identity_iff hcluster
  | none =>
    have hnormalized := isNormalized_identityOfFields source
    exact ⟨hnormalized.version.1, hnormalized.lang, by simpa using hnormalized⟩

/-- The version of this cluster has a letter, and its address does not begin with `http`. -/
theorem not_isNormalized_wholeText :
    let source := "\x7bid:'a',name:'Abc',version:'v2',site:'x'\x7d".toList
    let identity := (Strategy.regex.analyze source).value.identity
    identity.version = "v2" ∧ identity.baseUrl = "x" ∧ ¬ identity.IsNormalized := by
  intro source identity
  obtain ⟨hversion, hurl⟩ : identity.version = "v2" ∧ identity.baseUrl = "x" := by decide +kernel
  refine ⟨hversion, hurl, fun hnormalized ↦ ?_⟩
  have hchecked := Identity.isVersion_iff.mpr hnormalized.version
  rw [hversion] at hchecked
  exact absurd hchecked (by decide)

end WholeText

end PluginRecovery
