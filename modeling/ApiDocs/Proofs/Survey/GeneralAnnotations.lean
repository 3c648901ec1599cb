import ApiDocs.Proofs.Annotations.DescribedPaths
import ApiDocs.Proofs.Annotations.References
import ApiDocs.Proofs.Annotations.TaggedLines
import ApiDocs.Proofs.Survey.Requests

/-!
# What general annotations leave in the listing

A line sets one of eight texts of the listing, puts one reference in it, or changes nothing
(`GeneralLine.read_cases`). So after any lines each text is what the last line with its tag says,
and each reference has the description that the last line for its path gives it (`lastTold_foldl`,
once for both), while the paths keep the order in which they first occur. Files read one after the
other are their lines one after the other (`general_annotations`).
-/

set_option autoImplicit false

namespace ApiDocs

/-! ## The last item that tells something -/

section LastTold

variable {σ α β : Type}

/-- What the last of the items that tell anything tells, or what is so at the start if none of them
tells anything. -/
def LastTold (tells : α → β → Prop) (initially : β → Prop) (items : List α) (x : β) : Prop :=
  (∃ before item after, items = before ++ item :: after ∧ tells item x ∧
      ∀ i ∈ after, ∀ y, ¬ tells i y) ∨
    (∀ i ∈ items, ∀ y, ¬ tells i y) ∧ initially x

variable {f : σ → α → σ} {tells : α → β → Prop} {s : σ}

/-- If whatever holds after a step is told by its item, or held before and the item tells nothing,
then whatever holds after many steps was told last or held at the start. -/
theorem lastTold_foldl (inv : σ → Prop) (holds : σ → β → Prop)
    (hinv : ∀ s a, inv s → inv (f s a))
    (hstep : ∀ s a x, inv s → holds (f s a) x →
      tells a x ∨ (∀ y, ¬ tells a y) ∧ holds s x)
    (hs : inv s) (items : List α) {x : β} (h : holds (items.foldl f s) x) :
    LastTold tells (holds s) items x := by
  induction items using List.reverseRecOn with
  | nil => exact Or.inr ⟨fun _ hi => absurd hi List.not_mem_nil, h⟩
  | append_singleton items a ih =>
    rw [List.foldl_concat] at h
    have hbefore : inv (items.foldl f s) :=
      List.foldlRecOn items f hs fun s hs a _ => hinv s a hs
    rcases hstep _ a x hbefore h with htells | ⟨hsilent, hx⟩
    · exact Or.inl ⟨items, a, [], rfl, htells, fun _ hi => absurd hi List.not_mem_nil⟩
    · rcases ih hx with ⟨before, item, after, rfl, htells, hafter⟩ | ⟨hall, hstart⟩
      · refine Or.inl ⟨before, item, after ++ [a], by simp, htells, ?_⟩
        exact List.forall_mem_append.2 ⟨hafter, List.forall_mem_singleton.2 hsilent⟩
      · exact Or.inr ⟨List.forall_mem_append.2 ⟨hall, List.forall_mem_singleton.2 hsilent⟩, hstart⟩

end LastTold

namespace Annotations

/-! ## What a line says -/

/-- The texts that a general annotation can set. -/
inductive Scalar
  | apiVersion
  | title
  | description
  | contact
  | termsOfServiceUrl
  | license
  | licenseUrl
  | basePath
deriving DecidableEq

namespace Scalar

/-- All texts. -/
def all : List Scalar :=
  [apiVersion, title, description, contact, termsOfServiceUrl, license, licenseUrl, basePath]

/-- The tag of a text, in lower case. -/
def tag : Scalar → String
  | apiVersion => "apiversion"
  | title => "apititle"
  | description => "apidescription"
  | contact => "contact"
  | termsOfServiceUrl => "termsofserviceurl"
  | license => "license"
  | licenseUrl => "licenseurl"
  | basePath => "basepath"

/-- The text in a listing. -/
def get (listing : ResourceListing) : Scalar → String
  | apiVersion => listing.apiVersion
  | title => listing.info.title
  | description => listing.info.description
  | contact => listing.info.contact
  | termsOfServiceUrl => listing.info.termsOfServiceUrl
  | license => listing.info.license
  | licenseUrl => listing.info.licenseUrl
  | basePath => listing.basePath

/-- The annotation that sets the text. -/
def annotation (value : String) : Scalar → General
  | apiVersion => .apiVersion value
  | title => .apiTitle value
  | description => .apiDescription value
  | contact => .contact value
  | termsOfServiceUrl => .termsOfServiceUrl value
  | license => .license value
  | licenseUrl => .licenseUrl value
  | basePath => .basePath value

theorem tag_injective {f g : Scalar} (h : f.tag = g.tag) : f = g := by
  cases f <;> cases g <;> first | rfl | exact absurd h (by decide)

theorem tag_ne_subapi (f : Scalar) : f.tag ≠ "subapi" := by
  cases f <;> decide

theorem general_eq (f : Scalar) (value : List Char) :
    Tagged.general ⟨f.tag, value⟩ = .recognised (f.annotation (String.ofList value)) := by
  cases f <;> rfl

/-- An annotation sets its own text and no other. -/
theorem get_apply (f g : Scalar) (value : String) (listing : ResourceListing) :
    g.get ((f.annotation value).apply listing) = if f = g then value else g.get listing := by
  cases f <;> cases g <;> rfl

end Scalar

/-- A line that refers to a group: its tag stands in front of a description and a path in
brackets. -/
def Refers (line : String) (r : ResourceReference) : Prop :=
  ∃ p : DescribedPath, Bears "subapi" p.value line ∧ p.reference = r

variable {line : String} {r r' : ResourceReference} {f : Scalar} {value : List Char}
  {listing : ResourceListing}

theorem Refers.unique (h : Refers line r) (h' : Refers line r') : r = r' := by
  obtain ⟨p, hp, rfl⟩ := h
  obtain ⟨p', hp', rfl⟩ := h'
  have hread := reference?_value p
  rw [(hp.unique hp').2, reference?_value p'] at hread
  exact (Option.some.inj hread).symm

theorem Refers.not_bears (h : Refers line r) : ¬ Bears f.tag value line := by
  obtain ⟨p, hp, -⟩ := h
  exact fun hbears => f.tag_ne_subapi (hbears.unique hp).1

/-- Nine tags are tags of general annotations. -/
theorem Tagged.general_eq_other {tag : String} (hscalar : ∀ f ∈ Scalar.all, tag ≠ f.tag)
    (hsub : tag ≠ "subapi") (value : List Char) : general ⟨tag, value⟩ = .other := by
  simp only [Scalar.all, List.forall_mem_cons, List.not_mem_nil, Scalar.tag] at hscalar
  unfold general
  split <;> simp_all

namespace GeneralLine

/-- A line sets a text, puts a reference in the listing, or does not count. -/
theorem read_cases (line : String) :
    (∃ (f : Scalar) (value : List Char), Bears f.tag value line ∧
        read line = .recognised (f.annotation (String.ofList value))) ∨
      (∃ r, Refers line r ∧ read line = .recognised (.subApi r)) ∨
      (∀ (f : Scalar) (value : List Char), ¬ Bears f.tag value line) ∧ (∀ r, ¬ Refers line r) ∧
        (read line).applied = false := by
  unfold read
  cases hline : Tagged.ofLine? line with
  | none =>
    have hnone : ∀ {tag value}, ¬ Bears tag value line := fun hbears =>
      absurd (hline.symm.trans (Tagged.ofLine?_eq_some_iff.2 hbears)) (by simp)
    exact Or.inr (Or.inr ⟨fun _ _ => hnone, fun r ⟨_, hp, _⟩ => hnone hp, rfl⟩)
  | some t =>
    obtain ⟨tag, value⟩ := t
    have hbears : Bears tag value line := Tagged.ofLine?_eq_some_iff.1 hline
    simp only
    by_cases hscalar : ∃ f : Scalar, tag = f.tag
    · obtain ⟨f, rfl⟩ := hscalar
      exact Or.inl ⟨f, value, hbears, f.general_eq value⟩
    · have hother : ∀ (f : Scalar) (value : List Char), ¬ Bears f.tag value line := fun f _ hf =>
        hscalar ⟨f, (hbears.unique hf).1⟩
      right
      by_cases hsub : tag = "subapi"
      · subst hsub
        cases hreference : Annotations.reference? value with
        | some r =>
          obtain ⟨p, rfl, rfl⟩ := reference?_eq_some_iff.1 hreference
          refine Or.inl ⟨p.reference, ⟨p, hbears, rfl⟩, ?_⟩
          simp [Tagged.general, hreference]
        | none =>
          refine Or.inr ⟨hother, ?_, ?_⟩
          · rintro r ⟨p, hp, -⟩
            rw [(hbears.unique hp).2, reference?_value p] at hreference
            cases hreference
          · simp [Tagged.general, hreference, applied]
      · refine Or.inr ⟨hother, ?_, ?_⟩
        · rintro r ⟨p, hp, -⟩
          exact hsub (hbears.unique hp).1
        · rw [Tagged.general_eq_other (fun f _ hf => hscalar ⟨f, hf⟩) hsub]
          rfl

theorem apply_of_not_applied {l : GeneralLine} (h : l.applied = false) :
    l.apply listing = listing := by
  cases l with
  | recognised a => cases h
  | _ => rfl

/-- A line counts exactly if it sets a text or refers to a group. -/
theorem applied_read_iff :
    (read line).applied = true
      ↔ (∃ (f : Scalar) (value : List Char), Bears f.tag value line) ∨ ∃ r, Refers line r := by
  rcases read_cases line with ⟨f, value, hf, hread⟩ | ⟨r, hr, hread⟩ | ⟨hscalar, hrefers, hnot⟩
  · rw [hread]
    exact iff_of_true rfl (Or.inl ⟨f, value, hf⟩)
  · rw [hread]
    exact iff_of_true rfl (Or.inr ⟨r, hr⟩)
  · rw [hnot]
    refine iff_of_false Bool.false_ne_true ?_
    rintro (⟨f, value, hf⟩ | ⟨r, hr⟩)
    · exact hscalar f value hf
    · exact hrefers r hr

/-! ## What a line does to the listing -/

theorem swaggerVersion_apply (l : GeneralLine) (listing : ResourceListing) :
    (l.apply listing).swaggerVersion = listing.swaggerVersion := by
  cases l with
  | recognised a => cases a <;> rfl
  | _ => rfl

/-- A text is what the line says of it, and stays if the line says nothing of it. -/
theorem get_apply_read (f : Scalar) (listing : ResourceListing) (line : String) :
    (∃ value, Bears f.tag value line ∧
        f.get ((read line).apply listing) = String.ofList value) ∨
      (∀ value, ¬ Bears f.tag value line) ∧
        f.get ((read line).apply listing) = f.get listing := by
  rcases read_cases line with ⟨g, value, hg, hread⟩ | ⟨r, hr, hread⟩ | ⟨hscalar, -, hnot⟩
  · have hget := g.get_apply f (String.ofList value) listing
    rw [hread]
    by_cases hgf : g = f
    · subst hgf
      rw [if_pos rfl] at hget
      exact Or.inl ⟨value, hg, hget⟩
    · rw [if_neg hgf] at hget
      exact Or.inr ⟨fun _ hf => hgf (Scalar.tag_injective (hg.unique hf).1), hget⟩
  · rw [hread]
    exact Or.inr ⟨fun _ => hr.not_bears, by cases f <;> rfl⟩
  · rw [apply_of_not_applied hnot]
    exact Or.inr ⟨hscalar f, rfl⟩

end GeneralLine

/-! ## References, one for each path -/

/-- Among references whose paths differ, a new one takes the place of the one with its path. -/
theorem mem_putReference_iff {references : List ResourceReference} {x : ResourceReference}
    (h : (references.map ResourceReference.path).Nodup) :
    x ∈ putReference r references ↔ x = r ∨ x ∈ references ∧ x.path ≠ r.path := by
  induction references with
  | nil => simp [putReference]
  | cons first others ih =>
    rw [List.map_cons, List.nodup_cons] at h
    unfold putReference
    by_cases hpath : first.path = r.path
    · have hothers : ∀ y ∈ others, y.path ≠ r.path := fun y hy heq =>
        h.1 (List.mem_map.2 ⟨y, hy, heq.trans hpath.symm⟩)
      rw [if_pos hpath, List.mem_cons, List.mem_cons]
      constructor
      · rintro (rfl | hx)
        · exact Or.inl rfl
        · exact Or.inr ⟨Or.inr hx, hothers x hx⟩
      · rintro (rfl | ⟨rfl | hx, hne⟩)
        · exact Or.inl rfl
        · exact absurd hpath hne
        · exact Or.inr hx
    · rw [if_neg hpath, List.mem_cons, List.mem_cons, ih h.2]
      constructor
      · rintro (rfl | rfl | ⟨hx, hne⟩)
        · exact Or.inr ⟨Or.inl rfl, hpath⟩
        · exact Or.inl rfl
        · exact Or.inr ⟨Or.inr hx, hne⟩
      · rintro (rfl | ⟨rfl | hx, hne⟩)
        · exact Or.inr (Or.inl rfl)
        · exact Or.inl rfl
        · exact Or.inr (Or.inr ⟨hx, hne⟩)

namespace GeneralLine

theorem nodup_apply (l : GeneralLine) (h : (listing.apis.map ResourceReference.path).Nodup) :
    ((l.apply listing).apis.map ResourceReference.path).Nodup :=
  (firstOccurrences_foldl_apply [l] (.of_nodup h)).nodup

/-- For a path, a line puts the reference that it makes, and changes nothing if it makes none. -/
theorem mem_apis_apply_read (h : (listing.apis.map ResourceReference.path).Nodup) {path : String}
    (hr : r ∈ ((read line).apply listing).apis ∧ r.path = path) :
    (Refers line r ∧ r.path = path) ∨
      (∀ x, ¬ (Refers line x ∧ x.path = path)) ∧ r ∈ listing.apis ∧ r.path = path := by
  obtain ⟨hmem, hpath⟩ := hr
  rcases read_cases line with ⟨f, value, hf, hread⟩ | ⟨x, hx, hread⟩ | ⟨-, hrefers, hnot⟩
  · have hapis : ((read line).apply listing).apis = listing.apis := by
      rw [hread]
      cases f <;> rfl
    exact Or.inr ⟨fun x hx => hx.1.not_bears hf, hapis ▸ hmem, hpath⟩
  · have hapis : ((read line).apply listing).apis = putReference x listing.apis := by
      rw [hread]
      rfl
    rw [hapis, mem_putReference_iff h] at hmem
    rcases hmem with rfl | ⟨hmem, hne⟩
    · exact Or.inl ⟨hx, hpath⟩
    · refine Or.inr ⟨?_, hmem, hpath⟩
      rintro y ⟨hy, hypath⟩
      rw [hy.unique hx] at hypath
      exact hne (hpath.trans hypath.symm)
  · rw [apply_of_not_applied hnot] at hmem
    exact Or.inr ⟨fun x hx => hrefers x hx.1, hmem, hpath⟩

/-- A line is read as a reference exactly if it refers to a group. -/
theorem reference?_read_eq_some_iff : (read line).reference? = some r ↔ Refers line r := by
  rcases read_cases line with ⟨f, value, hf, hread⟩ | ⟨x, hx, hread⟩ | ⟨-, hrefers, hnot⟩
  · have hnone : (read line).reference? = none := by
      rw [hread]
      cases f <;> rfl
    rw [hnone]
    exact iff_of_false (Option.some_ne_none r).symm fun hr => hr.not_bears hf
  · rw [hread]
    exact ⟨fun h => Option.some.inj h ▸ hx, fun hr => congrArg some (hx.unique hr)⟩
  · refine iff_of_false (fun h => ?_) (hrefers r)
    rcases hline : read line with _ | _ | a
    · rw [hline] at h
      cases h
    · rw [hline] at h
      cases h
    · rw [hline] at hnot
      cases hnot

/-! ## What many lines leave -/

/-- What the listing is after some lines, in terms of what it was before them. -/
structure Reflects (initial : ResourceListing) (lines : List String) (final : ResourceListing) :
    Prop where
  /-- Each text is what the last line with its tag tells. -/
  text : ∀ f : Scalar, LastTold
    (fun line x => ∃ value, Bears f.tag value line ∧ x = String.ofList value)
    (· = f.get initial) lines (f.get final)
  swaggerVersion : final.swaggerVersion = initial.swaggerVersion
  /-- Each path stands where it comes first, those of the start before those of the lines. -/
  paths : FirstOccurrences
    (initial.apis.map ResourceReference.path ++ GeneralLine.paths (lines.map read))
    (final.apis.map ResourceReference.path)
  /-- Each reference is what the last line that refers to its path tells. -/
  reference : ∀ r ∈ final.apis, LastTold (fun line x => Refers line x ∧ x.path = r.path)
    (· ∈ initial.apis) lines r

theorem reflects_foldl (h : (listing.apis.map ResourceReference.path).Nodup)
    (lines : List String) : Reflects listing lines ((lines.map read).foldl apply listing) := by
  have hfold : (lines.map read).foldl apply listing
      = lines.foldl (fun listing line => (read line).apply listing) listing := List.foldl_map
  constructor
  · intro f
    rw [hfold]
    refine lastTold_foldl (fun _ => True) (fun listing x => x = f.get listing)
      (fun _ _ _ => trivial) ?_ trivial lines rfl
    rintro listing line x - rfl
    rcases get_apply_read f listing line with ⟨value, hvalue, hget⟩ | ⟨hsilent, hget⟩
    · exact Or.inl ⟨value, hvalue, hget⟩
    · exact Or.inr ⟨fun y ⟨value, hvalue, _⟩ => hsilent value hvalue, hget⟩
  · exact List.foldlRecOn (motive := fun l => l.swaggerVersion = listing.swaggerVersion) _ apply rfl
      fun l hl line _ => (swaggerVersion_apply line l).trans hl
  · exact firstOccurrences_foldl_apply _ (.of_nodup h)
  · intro r hr
    rw [hfold] at hr
    have htold : LastTold (fun line x => Refers line x ∧ x.path = r.path)
        (fun x => x ∈ listing.apis ∧ x.path = r.path) lines r := by
      refine lastTold_foldl
        (fun listing : ResourceListing => (listing.apis.map ResourceReference.path).Nodup)
        (fun (listing : ResourceListing) (x : ResourceReference) =>
          x ∈ listing.apis ∧ x.path = r.path)
        (fun _ line hnodup => nodup_apply (read line) hnodup) ?_ h lines ⟨hr, rfl⟩
      exact fun _ _ _ hnodup hx => mem_apis_apply_read hnodup hx
    exact htold.imp_right fun ⟨hall, hstart⟩ => ⟨hall, hstart.1⟩

end GeneralLine

end Annotations

namespace Survey

open Annotations

/-- The comments that a source text holds on lines of their own. -/
def commentLines (source : String) : List String :=
  (Text.lines source.toList).filterMap fun line =>
    (['/', '/'].isPrefixOf? (Text.trim line)).map String.ofList

/-- The comments of a file, none if it cannot be read. -/
def commentsIn (files : FileSystem) (file : Path) : List String :=
  match files.readText file with
  | .ok source => commentLines source
  | .error _ => []

theorem generalLines_eq (source : String) :
    generalLines source = (commentLines source).map GeneralLine.read := by
  unfold generalLines commentLines
  rw [List.map_filterMap]
  congr 1
  funext line
  rw [Option.map_map]
  rfl

theorem listingWith_eq (files : FileSystem) (listing : ResourceListing) (file : Path) :
    listingWith files listing file
      = ((commentsIn files file).map GeneralLine.read).foldl GeneralLine.apply listing := by
  unfold listingWith commentsIn
  cases files.readText file with
  | error issue => rfl
  | ok source => exact congrArg (List.foldl _ _) (generalLines_eq source)

/-- Files read one after the other are their comments one after the other. -/
theorem listing_after_files (s : Survey) (files : FileSystem) (paths : List Path) :
    (s.after (generalRequests files paths)).listing
      = ((paths.flatMap (commentsIn files)).map GeneralLine.read).foldl GeneralLine.apply
          s.listing := by
  rw [listing_after_generalRequests, List.map_flatMap, List.foldl_flatMap]
  congr 1
  funext listing file
  exact listingWith_eq files listing file

end Survey

namespace Annotations

/-- If the paths of a listing differ, then after any lines each of its texts is what the last line
with its tag tells, and it refers to each path once, in the order of first occurrence and as the
last line on that path tells. Files are read as their comments one after the other. A line that
does not count changes nothing. -/
theorem general_annotations {initial : ResourceListing}
    (h : (initial.apis.map ResourceReference.path).Nodup) :
    (∀ lines, GeneralLine.Reflects initial lines
        ((lines.map GeneralLine.read).foldl GeneralLine.apply initial)) ∧
      (∀ (s : Survey) (files : FileSystem) (paths : List Path), s.listing = initial →
        GeneralLine.Reflects initial (paths.flatMap (Survey.commentsIn files))
          (s.after (Survey.generalRequests files paths)).listing) ∧
      ∀ line, (∀ r, (GeneralLine.read line).reference? = some r ↔ Refers line r) ∧
        ((GeneralLine.read line).applied = true
          ↔ (∃ (f : Scalar) (value : List Char), Bears f.tag value line) ∨ ∃ r, Refers line r) ∧
        ((GeneralLine.read line).applied = false →
          ∀ listing, (GeneralLine.read line).apply listing = listing) := by
  refine ⟨GeneralLine.reflects_foldl h, ?_, fun line => ⟨fun r => ?_, ?_, fun hnot listing => ?_⟩⟩
  · rintro s files paths rfl
    rw [Survey.listing_after_files]
    exact GeneralLine.reflects_foldl h _
  · exact GeneralLine.reference?_read_eq_some_iff
  · exact GeneralLine.applied_read_iff
  · exact GeneralLine.apply_of_not_applied hnot

/-- The later version counts, and a new description takes the place of the old one. -/
theorem general_annotations_pets :
    let initial : ResourceListing := { swaggerVersion := "1.2", apis := [⟨"/pets", "Old"⟩] }
    let lines := ["@ApiVersion 1", "@SubApi Pets [ /pets ]", "@apiversion 2"]
    let final := (lines.map GeneralLine.read).foldl GeneralLine.apply initial
    (initial.apis.map ResourceReference.path).Nodup ∧
      GeneralLine.Reflects initial lines final ∧
      final.apiVersion = "2" ∧ final.apis = [⟨"/pets", "Pets"⟩] := by
  intro initial lines final
  have hnodup : (initial.apis.map ResourceReference.path).Nodup := List.nodup_singleton _
  exact ⟨hnodup, (general_annotations hnodup).1 lines, by decide, by decide⟩

end Annotations

end ApiDocs
