import ApiDocs.Proofs.Annotations.References
import ApiDocs.Proofs.Grouping.Reconciliation
import ApiDocs.Proofs.Survey
import Mathlib.Data.List.Pairwise

/-!
# Groups that are referred to more than once

The lines of the main file leave one reference for each path, but a group has many paths: `/pets`
and `pets/` stand for the same one. So a listing that is made from such lines and reconciled with a
package refers to each group at most once exactly if the lines write every documented group in one
way (`SpelledAlike`) and no new reference is for a group that another reference is for
(`StandApart`). The latter can only fail for keys that end in a blank.
-/

set_option autoImplicit false

namespace ApiDocs

open Annotations (GeneralLine)

namespace ResourceReference

variable {references : List ResourceReference}

/-- Two references are for the same group. -/
def SameGroup (r s : ResourceReference) : Prop :=
  ∃ key, r.key? = some key ∧ s.key? = some key

instance : Std.Symm fun r s : ResourceReference => ¬ SameGroup r s where
  symm _ _ hnot := fun ⟨key, hr, hs⟩ => hnot ⟨key, hs, hr⟩

theorem ofKey_injective : Function.Injective ofKey := by
  intro key other hsame
  have htext : "/" ++ key.text = "/" ++ other.text := congrArg ResourceReference.path hsame
  exact GroupKey.eq_of_text_eq ((String.append_right_inj _).1 htext)

/-- No two of some references are for the same group. -/
def ReferencedOnce (references : List ResourceReference) : Prop :=
  references.Pairwise fun r s => ¬ SameGroup r s

theorem referencedOnce_iff_of_nodup (hnodup : references.Nodup) :
    ReferencedOnce references ↔ ∀ r ∈ references, ∀ s ∈ references, SameGroup r s → r = s := by
  constructor
  · intro h r hr s hs hsame
    by_contra hne
    exact h.forall hr hs hne hsame
  · intro h
    refine List.Pairwise.imp_of_mem (fun hr hs hne hsame => ?_) hnodup
    exact hne (h _ hr _ hs hsame)

end ResourceReference

/-- Paths that stand for the same group of a kind are the same text. -/
def GroupKey.SpelledAlike (kind : GroupKey → Prop) (paths : List String) : Prop :=
  ∀ p ∈ paths, ∀ q ∈ paths, ∀ key, kind key → parse p = .ok key → parse q = .ok key → p = q

namespace ResourceListing

open GroupKey (SpelledAlike)
open ResourceReference (ReferencedOnce SameGroup referencedOnce_iff_of_nodup)

variable {listing : ResourceListing} {groups : Groups}

/-! ## The references that lines leave -/

/-- Of references with different paths, a group of a kind is spelled in one way exactly if at most
one is for it. -/
theorem spelledAlike_iff {kind : GroupKey → Prop}
    (hpaths : (listing.apis.map ResourceReference.path).Nodup) :
    SpelledAlike kind (listing.apis.map ResourceReference.path)
      ↔ ∀ r ∈ listing.apis, ∀ s ∈ listing.apis, ∀ key, kind key →
        r.key? = some key → s.key? = some key → r = s := by
  unfold SpelledAlike
  simp only [List.forall_mem_map, ResourceReference.key?_eq_some_iff]
  constructor
  · intro h r hr s hs key hkey hrkey hskey
    exact List.inj_on_of_nodup_map hpaths hr hs (h r hr s hs key hkey hrkey hskey)
  · intro h r hr s hs key hkey hrkey hskey
    rw [h r hr s hs key hkey hrkey hskey]

theorem referencedOnce_apis_iff (hpaths : (listing.apis.map ResourceReference.path).Nodup) :
    ReferencedOnce listing.apis
      ↔ SpelledAlike (fun _ => True) (listing.apis.map ResourceReference.path) := by
  rw [referencedOnce_iff_of_nodup hpaths.of_map, spelledAlike_iff hpaths]
  constructor
  · intro h r hr s hs key _ hrkey hskey
    exact h r hr s hs ⟨key, hrkey, hskey⟩
  · rintro h r hr s hs ⟨key, hrkey, hskey⟩
    exact h r hr s hs key trivial hrkey hskey

/-- Among the references that are kept only documented groups matter. -/
theorem referencedOnce_kept_iff (hpaths : (listing.apis.map ResourceReference.path).Nodup) :
    ReferencedOnce (listing.kept groups)
      ↔ SpelledAlike (· ∈ groups.keys) (listing.apis.map ResourceReference.path) := by
  have hkept : (listing.kept groups).Nodup := hpaths.of_map.filter _
  rw [referencedOnce_iff_of_nodup hkept, spelledAlike_iff hpaths]
  constructor
  · intro h r hr s hs key hkey hrkey hskey
    have hrkept := List.mem_filter.2 ⟨hr, ResourceReference.isKnown_iff.2 ⟨key, hkey, hrkey⟩⟩
    have hskept := List.mem_filter.2 ⟨hs, ResourceReference.isKnown_iff.2 ⟨key, hkey, hskey⟩⟩
    exact h r hrkept s hskept ⟨key, hrkey, hskey⟩
  · rintro h r hr s hs ⟨key, hrkey, hskey⟩
    obtain ⟨hr, hknown⟩ := List.mem_filter.1 hr
    obtain ⟨other, hother, hsame⟩ := ResourceReference.isKnown_iff.1 hknown
    rw [hrkey, Option.some.injEq] at hsame
    exact h r hr s (List.mem_of_mem_filter hs) key (hsame ▸ hother) hrkey hskey

/-! ## New references -/

/-- The group that the references to a documented group are for: this group if the listing refers to
it, and otherwise the one that the path of its new reference stands for. -/
def standsFor? (listing : ResourceListing) (key : GroupKey) : Option GroupKey :=
  if RefersTo listing.apis key then some key else (ResourceReference.ofKey key).key?

theorem standsFor?_of_refersTo {key : GroupKey} (h : RefersTo listing.apis key) :
    listing.standsFor? key = some key :=
  if_pos h

theorem standsFor?_of_unreferenced {key : GroupKey} (h : listing.Unreferenced groups key) :
    listing.standsFor? key = (ResourceReference.ofKey key).key? :=
  if_neg h.2

/-- The references to different documented groups are for different groups. -/
def StandApart (listing : ResourceListing) (groups : Groups) : Prop :=
  ∀ key ∈ groups.keys, ∀ other ∈ groups.keys, ∀ group,
    listing.standsFor? key = some group → listing.standsFor? other = some group → key = other

/-- New references to keys without a blank at the end are for these keys. -/
theorem standApart_of_endsTight (h : ∀ key, listing.Unreferenced groups key → key.EndsTight) :
    listing.StandApart groups := by
  have hself : ∀ key ∈ groups.keys, listing.standsFor? key = some key := by
    intro key hkey
    by_cases hrefers : RefersTo listing.apis key
    · exact standsFor?_of_refersTo hrefers
    · have hnew : listing.Unreferenced groups key := ⟨hkey, hrefers⟩
      rw [standsFor?_of_unreferenced hnew]
      exact ResourceReference.key?_ofKey_eq_self_iff.2 (h key hnew)
  intro key hkey other hother group hgroup hsame
  rw [hself key hkey] at hgroup
  rw [hself other hother] at hsame
  exact Option.some.inj (hgroup.trans hsame.symm)

theorem nodup_added_kept (listing : ResourceListing) (groups : Groups) :
    (added groups (listing.kept groups)).Nodup := by
  rw [added_kept]
  exact (groups.nodup_keys.filter _).map ResourceReference.ofKey_injective

theorem referencedOnce_reconcile_iff (hpaths : (listing.apis.map ResourceReference.path).Nodup) :
    ReferencedOnce (listing.reconcile groups).apis
      ↔ SpelledAlike (· ∈ groups.keys) (listing.apis.map ResourceReference.path)
        ∧ listing.StandApart groups := by
  have hsplit : ReferencedOnce (listing.reconcile groups).apis
      ↔ ReferencedOnce (listing.kept groups)
        ∧ ReferencedOnce (added groups (listing.kept groups))
        ∧ ∀ r ∈ listing.kept groups, ∀ s ∈ added groups (listing.kept groups), ¬ SameGroup r s :=
    List.pairwise_append
  rw [hsplit, referencedOnce_kept_iff hpaths,
    referencedOnce_iff_of_nodup (nodup_added_kept listing groups)]
  apply and_congr_right'
  constructor
  · rintro ⟨hnew, hcross⟩
    -- No new reference is for a group that an original one is for.
    have hfresh : ∀ key, listing.Unreferenced groups key → ∀ group ∈ groups.keys,
        RefersTo listing.apis group → listing.standsFor? key ≠ some group := by
      intro key hkey group hmem hrefers hgroup
      obtain ⟨r, hr, hrgroup⟩ := refersTo_kept_iff.2 ⟨hmem, hrefers⟩
      rw [standsFor?_of_unreferenced hkey] at hgroup
      exact hcross r hr _ (mem_added_kept_iff.2 ⟨key, hkey, rfl⟩) ⟨group, hrgroup, hgroup⟩
    intro key hkey other hother group hgroup hsame
    by_cases hrefers : RefersTo listing.apis key
    · rw [standsFor?_of_refersTo hrefers, Option.some.injEq] at hgroup
      subst hgroup
      by_cases hrefers' : RefersTo listing.apis other
      · rw [standsFor?_of_refersTo hrefers', Option.some.injEq] at hsame
        exact hsame.symm
      · exact absurd hsame (hfresh other ⟨hother, hrefers'⟩ key hkey hrefers)
    · by_cases hrefers' : RefersTo listing.apis other
      · rw [standsFor?_of_refersTo hrefers', Option.some.injEq] at hsame
        subst hsame
        exact absurd hgroup (hfresh key ⟨hkey, hrefers⟩ other hother hrefers')
      · have hnewKey : listing.Unreferenced groups key := ⟨hkey, hrefers⟩
        have hnewOther : listing.Unreferenced groups other := ⟨hother, hrefers'⟩
        rw [standsFor?_of_unreferenced hnewKey] at hgroup
        rw [standsFor?_of_unreferenced hnewOther] at hsame
        exact ResourceReference.ofKey_injective
          (hnew _ (mem_added_kept_iff.2 ⟨key, hnewKey, rfl⟩) _
            (mem_added_kept_iff.2 ⟨other, hnewOther, rfl⟩) ⟨group, hgroup, hsame⟩)
  · intro hapart
    constructor
    · rintro r hr s hs ⟨group, hrgroup, hsgroup⟩
      obtain ⟨key, hkey, rfl⟩ := mem_added_kept_iff.1 hr
      obtain ⟨other, hother, rfl⟩ := mem_added_kept_iff.1 hs
      rw [← standsFor?_of_unreferenced hkey] at hrgroup
      rw [← standsFor?_of_unreferenced hother] at hsgroup
      rw [hapart key hkey.1 other hother.1 group hrgroup hsgroup]
    · rintro r hr s hs ⟨group, hrgroup, hsgroup⟩
      obtain ⟨hmem, hrefers⟩ := refersTo_kept_iff.1 ⟨r, hr, hrgroup⟩
      obtain ⟨key, hkey, rfl⟩ := mem_added_kept_iff.1 hs
      rw [← standsFor?_of_unreferenced hkey] at hsgroup
      have hsame := hapart group hmem key hkey.1 group (standsFor?_of_refersTo hrefers) hsgroup
      exact hkey.2 (hsame ▸ hrefers)

end ResourceListing

namespace Survey

open GroupKey (SpelledAlike)
open ResourceReference (ReferencedOnce)

/-- Lines of main files are applied to a listing without references, and then a package is read. If
the package cannot be read, the references are for different groups exactly if the lines write every
group in one way. If it can, they are exactly if the lines write every documented group in one way
and the references to different documented groups are for different groups. The latter holds unless
a group that no line names has a key with a blank at its end. -/
theorem referencedOnce_readPackage_iff (s : Survey) (lines : List String) (files : FileSystem)
    (package : String) :
    let general := lines.map GeneralLine.read
    let listing := general.foldl GeneralLine.apply { s.listing with apis := [] }
    match (readPackage files package).run.run { s with listing } with
    | (.error _, after) =>
      ReferencedOnce after.listing.apis ↔ SpelledAlike (fun _ => True) (GeneralLine.paths general)
    | (.ok _, after) =>
      (ReferencedOnce after.listing.apis
          ↔ SpelledAlike (· ∈ after.groups.keys) (GeneralLine.paths general)
            ∧ listing.StandApart after.groups)
        ∧ ((∀ key, listing.Unreferenced after.groups key → key.EndsTight) →
          listing.StandApart after.groups) := by
  intro general listing
  have hfirst : FirstOccurrences (GeneralLine.paths general)
      (listing.apis.map ResourceReference.path) := by
    let start : ResourceListing := { s.listing with apis := [] }
    have hnone : FirstOccurrences [] (start.apis.map ResourceReference.path) := FirstOccurrences.nil
    exact GeneralLine.firstOccurrences_foldl_apply general hnone
  have halike : ∀ kind, SpelledAlike kind (GeneralLine.paths general)
      ↔ SpelledAlike kind (listing.apis.map ResourceReference.path) := by
    intro kind
    unfold SpelledAlike
    simp only [hfirst.mem_iff]
  rw [readPackage_run]
  simp only [halike]
  cases packageDirectory files package s.roots with
  | error e => exact ResourceListing.referencedOnce_apis_iff hfirst.nodup
  | ok directory =>
    simp only
    cases files.scan directory with
    | error e => exact ResourceListing.referencedOnce_apis_iff hfirst.nodup
    | ok paths =>
      exact ⟨ResourceListing.referencedOnce_reconcile_iff hfirst.nodup,
        ResourceListing.standApart_of_endsTight⟩

/-- The files of a package with a route on `/pets`. -/
def petsPackage : FileSystem where
  tree := .directory [("src", .directory
    [("pets.go", .file "// @Router /pets\nfunc List() \x7b\x7d".toUTF8)])]

theorem readPackage_petsPackage (s : Survey) (hroots : s.roots = [⟨""⟩]) :
    (readPackage petsPackage "").run.run s
      = (.ok (), s.afterPackage petsPackage [⟨"src/pets.go"⟩]) := by
  have hscan : petsPackage.scan ⟨"src/"⟩ = .ok [⟨"src/pets.go"⟩] := by
    have hfind : petsPackage.find? ⟨"src/"⟩ = some (.directory
        [("pets.go", .file "// @Router /pets\nfunc List() \x7b\x7d".toUTF8)]) := rfl
    -- Sorting the names does not evaluate, even though there is only one.
    rw [FileSystem.scan, hfind]
    simp only [FileTree.goFiles, FileTree.goFilesOf, FileTree.inNameOrder, List.mergeSort_singleton]
    rfl
  have hdirectory : packageDirectory petsPackage "" [⟨""⟩] = .ok ⟨"src/"⟩ := rfl
  rw [readPackage_run, hroots, hdirectory]
  simp only [hscan]

/-- Two lines that write the path of one group in two ways leave two references to it. -/
theorem two_spellings_of_one_group :
    let general := ["@SubApi Animals [/pets]", "@SubApi Pets [pets/]"].map GeneralLine.read
    let listing := general.foldl GeneralLine.apply {}
    let after := ((readPackage petsPackage "").run.run { roots := [⟨""⟩], listing }).2
    after.groups.keys.map GroupKey.text = ["pets"]
      ∧ after.listing.apis = [⟨"/pets", "Animals"⟩, ⟨"pets/", "Pets"⟩]
      ∧ ¬ ReferencedOnce after.listing.apis := by
  intro general listing after
  have hafter : after = afterPackage { roots := [⟨""⟩], listing } petsPackage [⟨"src/pets.go"⟩] :=
    congrArg Prod.snd (readPackage_petsPackage _ rfl)
  have hapis : after.listing.apis = [⟨"/pets", "Animals"⟩, ⟨"pets/", "Pets"⟩] := by
    rw [hafter]
    decide +kernel
  refine ⟨?_, hapis, ?_⟩
  · rw [hafter]
    decide +kernel
  · rw [hapis]
    intro honce
    have hanimals : GroupKey.parse "/pets" = .ok ⟨"pets", by decide⟩ :=
      GroupKey.parse_eq_ok_iff.2 (by decide)
    have hpets : GroupKey.parse "pets/" = .ok ⟨"pets", by decide⟩ :=
      GroupKey.parse_eq_ok_iff.2 (by decide)
    exact List.pairwise_pair.1 honce ⟨_, ResourceReference.key?_eq_some_iff.2 hanimals,
      ResourceReference.key?_eq_some_iff.2 hpets⟩

end Survey

end ApiDocs
