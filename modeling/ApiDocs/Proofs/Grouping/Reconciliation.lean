import ApiDocs.Grouping.Reconciliation
import ApiDocs.Proofs.GroupKey
import ApiDocs.Proofs.SortedMap

/-!
# What reconciling a listing leaves

Reconciling keeps the references to documented groups and adds one to each group that is not referred
to. A reference is added behind a slash, and a key with a blank at its end is not what that path
stands for. So the references are for exactly the documented groups if and only if no key that needs
a new reference ends in a blank (`keys_reconcile_iff`), and then a second reconciliation changes
nothing. Whether the references are added one after the other or all at once makes no difference,
because a path never stands for a later key than its own (`reconcile_eq_foldl`).
-/

set_option autoImplicit false

namespace ApiDocs

namespace ResourceReference

variable {groups : Groups} {key other : GroupKey} {r : ResourceReference}

theorem key?_eq_some_iff : r.key? = some key ↔ GroupKey.parse r.path = .ok key :=
  GroupKey.parse?_eq_some_iff

theorem key?_ofKey_eq_some_iff :
    (ofKey key).key? = some other ↔ GroupKey.parse key.resourcePath = .ok other :=
  key?_eq_some_iff

theorem isKnown_iff : r.isKnown groups = true ↔ ∃ key ∈ groups.keys, r.key? = some key := by
  unfold isKnown
  cases r.key? with
  | none => simp
  | some key => simp [SortedMap.contains_iff_mem_keys]

theorem key?_ofKey_eq_self_iff : (ofKey key).key? = some key ↔ key.EndsTight := by
  rw [key?_ofKey_eq_some_iff]
  exact GroupKey.parse_resourcePath_eq_self_iff

/-- The path of a reference does not stand for a later key than its own. -/
theorem not_before_of_key?_ofKey (h : (ofKey key).key? = some other) :
    ¬ TextKey.Before key other := by
  have hprefix := GroupKey.isPrefix_of_parse_resourcePath (key?_ofKey_eq_some_iff.1 h)
  intro hbefore
  have hlt : key.text < other.text := hbefore
  exact List.not_lt.2 hprefix.le (String.lt_iff.1 hlt)

end ResourceReference

namespace ResourceListing

variable {listing : ResourceListing} {groups : Groups} {key : GroupKey}
  {references : List ResourceReference}

/-- Whether one of some references is for a group. -/
def RefersTo (references : List ResourceReference) (key : GroupKey) : Prop :=
  ∃ r ∈ references, r.key? = some key

theorem any_key?_iff :
    (references.any fun r => r.key? == some key) = true ↔ RefersTo references key := by
  simp only [List.any_eq_true, beq_iff_eq, RefersTo]

instance (references : List ResourceReference) (key : GroupKey) :
    Decidable (RefersTo references key) :=
  decidable_of_iff _ any_key?_iff

/-! ## What is kept and what is added -/

theorem refersTo_kept_iff :
    RefersTo (listing.kept groups) key ↔ key ∈ groups.keys ∧ RefersTo listing.apis key := by
  unfold RefersTo kept
  constructor
  · rintro ⟨r, hr, hkey⟩
    obtain ⟨hmem, hknown⟩ := List.mem_filter.1 hr
    obtain ⟨other, hother, hsame⟩ := ResourceReference.isKnown_iff.1 hknown
    rw [hkey, Option.some.injEq] at hsame
    exact ⟨hsame ▸ hother, r, hmem, hkey⟩
  · rintro ⟨hmem, r, hr, hkey⟩
    exact ⟨r, List.mem_filter.2 ⟨hr, ResourceReference.isKnown_iff.2 ⟨key, hmem, hkey⟩⟩, hkey⟩

/-- The groups that need a new reference: no original one is for them. -/
def Unreferenced (listing : ResourceListing) (groups : Groups) (key : GroupKey) : Prop :=
  key ∈ groups.keys ∧ ¬ RefersTo listing.apis key

theorem added_kept (listing : ResourceListing) (groups : Groups) :
    added groups (listing.kept groups)
      = (groups.keys.filter fun key => ¬ RefersTo listing.apis key).map .ofKey := by
  unfold added
  congr 1
  apply List.filter_congr
  intro key hmem
  have hsame : ((listing.kept groups).any fun r => r.key? == some key)
      = decide (RefersTo listing.apis key) := by
    rw [Bool.eq_iff_iff, any_key?_iff, refersTo_kept_iff, decide_eq_true_iff]
    exact and_iff_right hmem
  rw [hsame, decide_not]

theorem mem_added_kept_iff {r : ResourceReference} :
    r ∈ added groups (listing.kept groups)
      ↔ ∃ key, listing.Unreferenced groups key ∧ r = .ofKey key := by
  rw [added_kept, List.mem_map]
  simp only [List.mem_filter, decide_eq_true_iff]
  constructor
  · rintro ⟨key, hkey, rfl⟩
    exact ⟨key, hkey, rfl⟩
  · rintro ⟨key, hkey, rfl⟩
    exact ⟨key, hkey, rfl⟩

theorem refersTo_reconcile_iff :
    RefersTo (listing.reconcile groups).apis key
      ↔ (key ∈ groups.keys ∧ RefersTo listing.apis key)
        ∨ ∃ other, listing.Unreferenced groups other
          ∧ (ResourceReference.ofKey other).key? = some key := by
  have hsplit : RefersTo (listing.reconcile groups).apis key
      ↔ RefersTo (listing.kept groups) key
        ∨ RefersTo (added groups (listing.kept groups)) key := by
    unfold RefersTo reconcile
    simp only [List.mem_append, or_and_right, exists_or]
  rw [hsplit, refersTo_kept_iff]
  apply or_congr_right
  constructor
  · rintro ⟨r, hr, hkey⟩
    obtain ⟨other, hother, rfl⟩ := mem_added_kept_iff.1 hr
    exact ⟨other, hother, hkey⟩
  · rintro ⟨other, hother, hkey⟩
    exact ⟨.ofKey other, mem_added_kept_iff.2 ⟨other, hother, rfl⟩, hkey⟩

/-! ## The groups referred to -/

/-- The references are for exactly the groups, if no group that needs a new reference has a key with
a blank at its end, and only then. -/
theorem keys_reconcile_iff :
    (∀ key, RefersTo (listing.reconcile groups).apis key ↔ key ∈ groups.keys)
      ↔ ∀ key, listing.Unreferenced groups key → key.EndsTight := by
  constructor
  · intro hkeys
    -- A new reference to a key that is not tight can only come from a longer one.
    have hlonger : ∀ key ∈ groups.keys, ¬ RefersTo listing.apis key ∧ ¬ key.EndsTight →
        ∃ other ∈ groups.keys, (¬ RefersTo listing.apis other ∧ ¬ other.EndsTight)
          ∧ key.text.toList.length < other.text.toList.length := by
      rintro key hmem ⟨hnot, hblank⟩
      rcases refersTo_reconcile_iff.1 ((hkeys key).2 hmem) with ⟨-, hrefers⟩ | ⟨other, hother, hkey⟩
      · exact absurd hrefers hnot
      · have hother_blank : ¬ other.EndsTight := by
          intro htight
          rw [ResourceReference.key?_ofKey_eq_self_iff.2 htight, Option.some.injEq] at hkey
          exact hblank (hkey ▸ htight)
        have hlt := GroupKey.length_lt_of_parse_resourcePath
          (ResourceReference.key?_ofKey_eq_some_iff.1 hkey) hother_blank
        exact ⟨other, hother.1, ⟨hother.2, hother_blank⟩, hlt⟩
    rintro key ⟨hmem, hnot⟩
    by_contra hblank
    exact GroupKey.forall_not_of_longer hlonger key hmem ⟨hnot, hblank⟩
  · intro htight key
    rw [refersTo_reconcile_iff]
    constructor
    · rintro (⟨hmem, -⟩ | ⟨other, hother, hkey⟩)
      · exact hmem
      · rw [ResourceReference.key?_ofKey_eq_self_iff.2 (htight other hother),
          Option.some.injEq] at hkey
        exact hkey ▸ hother.1
    · intro hmem
      by_cases hrefers : RefersTo listing.apis key
      · exact Or.inl ⟨hmem, hrefers⟩
      · have hunreferenced : listing.Unreferenced groups key := ⟨hmem, hrefers⟩
        exact Or.inr ⟨key, hunreferenced,
          ResourceReference.key?_ofKey_eq_self_iff.2 (htight key hunreferenced)⟩

/-- A listing whose references are for groups, and for all of them, stays as it is. -/
theorem reconcile_eq_self (hknown : ∀ r ∈ listing.apis, r.isKnown groups = true)
    (hall : ∀ key ∈ groups.keys, RefersTo listing.apis key) : listing.reconcile groups = listing := by
  have hkept : listing.kept groups = listing.apis := List.filter_eq_self.2 hknown
  have hadded : added groups (listing.kept groups) = [] := by
    rw [List.eq_nil_iff_forall_not_mem]
    intro r hr
    obtain ⟨key, ⟨hmem, hnot⟩, -⟩ := mem_added_kept_iff.1 hr
    exact hnot (hall key hmem)
  unfold reconcile
  rw [hadded, hkept, List.append_nil]

/-- Reconciling again changes nothing, unless a new reference is to a key with a blank at its end. -/
theorem reconcile_reconcile (htight : ∀ key, listing.Unreferenced groups key → key.EndsTight) :
    (listing.reconcile groups).reconcile groups = listing.reconcile groups := by
  apply reconcile_eq_self
  · intro r hr
    rcases List.mem_append.1 hr with hkept | hadded
    · exact (List.mem_filter.1 hkept).2
    · obtain ⟨key, hkey, rfl⟩ := mem_added_kept_iff.1 hadded
      have hsame := ResourceReference.key?_ofKey_eq_self_iff.2 (htight key hkey)
      exact ResourceReference.isKnown_iff.2 ⟨key, hkey.1, hsame⟩
  · intro key hmem
    exact (keys_reconcile_iff.2 htight key).2 hmem

/-! ## One reference after the other -/

/-- Some references with one more to a group, unless one of them is for it already. -/
def refer (references : List ResourceReference) (key : GroupKey) : List ResourceReference :=
  if references.any fun r => r.key? == some key then references else references ++ [.ofKey key]

theorem foldl_refer {keys : List GroupKey} (hkeys : keys.Pairwise TextKey.Before)
    (references : List ResourceReference) :
    keys.foldl refer references = references
      ++ (keys.filter fun key => !references.any fun r => r.key? == some key).map .ofKey := by
  induction keys generalizing references with
  | nil => rw [List.foldl_nil, List.filter_nil, List.map_nil, List.append_nil]
  | cons key keys ih =>
    obtain ⟨hhead, htail⟩ := List.pairwise_cons.1 hkeys
    rw [List.foldl_cons, ih htail]
    unfold refer
    cases hany : references.any fun r => r.key? == some key with
    | true => simp [hany]
    | false =>
      -- The new reference is not for a key that is still to come.
      have hsame : ∀ other ∈ keys,
          (!(references ++ [ResourceReference.ofKey key]).any fun r => r.key? == some other)
            = !references.any fun r => r.key? == some other := by
        intro other hother
        have hnot : (ResourceReference.ofKey key).key? ≠ some other := fun h =>
          ResourceReference.not_before_of_key?_ofKey h (hhead other hother)
        simp [hnot]
      rw [if_neg Bool.false_ne_true, List.filter_congr hsame]
      simp [hany]

/-- Adding the references all at once is adding them one after the other. -/
theorem reconcile_eq_foldl (listing : ResourceListing) (groups : Groups) :
    listing.reconcile groups
      = { listing with apis := groups.keys.foldl refer (listing.kept groups) } := by
  rw [foldl_refer groups.pairwise_keys]
  rfl

/-! ## The listing as a whole -/

/-- What reconciling leaves: the original references to documented groups, and then one new reference
to each group that none of the original ones is for, in the order of the keys; nothing else is
changed. The references are for exactly the groups if and only if no key that gets a new reference
has a blank at its end, and then reconciling again changes nothing. -/
theorem references_reconcile (listing : ResourceListing) (groups : Groups) :
    listing.reconcile groups
        = { listing with
            apis := (listing.apis.filter fun r => r.isKnown groups)
              ++ (groups.keys.filter fun key => ¬ RefersTo listing.apis key).map
                fun key => ⟨"/" ++ key.text, ""⟩ }
      ∧ ((∀ key, RefersTo (listing.reconcile groups).apis key ↔ key ∈ groups.keys)
        ↔ ∀ key, listing.Unreferenced groups key → key.EndsTight)
      ∧ ((∀ key, listing.Unreferenced groups key → key.EndsTight) →
        (listing.reconcile groups).reconcile groups = listing.reconcile groups) := by
  refine ⟨?_, keys_reconcile_iff, reconcile_reconcile⟩
  unfold reconcile
  rw [added_kept]
  rfl

/-- A listing that refers to one documented group and to one that is not. -/
theorem references_reconcile_users :
    let users : GroupKey := ⟨"users", by decide⟩
    let orders : GroupKey := ⟨"orders", by decide⟩
    let groups : Groups := (SortedMap.empty.insert users default).insert orders default
    let listing : ResourceListing := { apis := [⟨"/users", "People"⟩, ⟨"/old", ""⟩] }
    (listing.reconcile groups).apis = [⟨"/users", "People"⟩, ⟨"/orders", ""⟩]
      ∧ (listing.reconcile groups).reconcile groups = listing.reconcile groups := by
  intro users orders groups listing
  have htight : ∀ key ∈ groups.keys, key.EndsTight := by decide
  obtain ⟨-, -, hagain⟩ := references_reconcile listing groups
  exact ⟨by decide, hagain fun key hkey => htight key hkey.1⟩

/-- The key `a ` has a blank at its end. Its reference is for the group `a`, so it gets one more each
time the listing is reconciled. -/
theorem blank_in_reference :
    let a : GroupKey := ⟨"a", by decide⟩
    let blank : GroupKey := ⟨"a ", by decide⟩
    let groups : Groups := (SortedMap.empty.insert a default).insert blank default
    let listing : ResourceListing := ResourceListing.reconcile {} groups
    GroupKey.parse "a" = .ok a ∧ GroupKey.parse "a /" = .ok blank
      ∧ ¬ (∀ key, RefersTo listing.apis key ↔ key ∈ groups.keys)
      ∧ listing.apis.map (·.path) = ["/a", "/a "]
      ∧ (listing.reconcile groups).apis.map (·.path) = ["/a", "/a ", "/a "] := by
  intro a blank groups listing
  have hparse : GroupKey.parse "a" = .ok a := GroupKey.parse_eq_ok_iff.2 (by decide)
  have hparse_blank : GroupKey.parse "a /" = .ok blank := GroupKey.parse_eq_ok_iff.2 (by decide)
  refine ⟨hparse, hparse_blank, ?_, by decide, by decide⟩
  intro hkeys
  have hrefers : RefersTo listing.apis blank := (hkeys blank).2 (by decide)
  exact absurd hrefers (by decide)

end ResourceListing

end ApiDocs
