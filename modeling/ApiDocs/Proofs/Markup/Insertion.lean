import ApiDocs.Markup.Document
import ApiDocs.Proofs.SortedMap

/-!
# One more group in a markup document

A document walks its groups twice in the order of their keys, once for the links and once for the
sections. A group that is added comes between the same two neighbours both times, so it inserts its
link and its section and leaves every other character as it was (`document_insert`). The section
depends on the listing only through the description of the first reference to the group.
-/

set_option autoImplicit false

namespace ApiDocs.Markup

/-- The links of groups in the list of contents. -/
def linksOf (d : Dialect) (entries : List (GroupKey × ApiDeclaration)) : String :=
  String.join (entries.map fun e => contentsItem d e.1)

/-- The sections of groups. -/
def sectionsOf (d : Dialect) (listing : ResourceListing)
    (entries : List (GroupKey × ApiDeclaration)) : String :=
  String.join (entries.map fun e => groupSection d (groupDescription listing e.1) e.1 e.2)

variable (d : Dialect) (listing : ResourceListing)
  (earlier later : List (GroupKey × ApiDeclaration))

theorem linksOf_append : linksOf d (earlier ++ later) = linksOf d earlier ++ linksOf d later := by
  unfold linksOf
  rw [List.map_append, String.join_append]

theorem linksOf_cons (e : GroupKey × ApiDeclaration) :
    linksOf d (e :: later) = contentsItem d e.1 ++ linksOf d later := by
  unfold linksOf
  rw [List.map_cons, String.join_cons]

theorem sectionsOf_append :
    sectionsOf d listing (earlier ++ later)
      = sectionsOf d listing earlier ++ sectionsOf d listing later := by
  unfold sectionsOf
  rw [List.map_append, String.join_append]

theorem sectionsOf_cons (e : GroupKey × ApiDeclaration) :
    sectionsOf d listing (e :: later)
      = groupSection d (groupDescription listing e.1) e.1 e.2 ++ sectionsOf d listing later := by
  unfold sectionsOf
  rw [List.map_cons, String.join_cons]

theorem document_eq (doc : Documentation) :
    document d doc
      = preamble d doc.listing ++ d.heading 2 "Contents" none ++ linksOf d doc.groups.entries
        ++ "\n" ++ sectionsOf d doc.listing doc.groups.entries := by
  have hlinks : doc.groups.keys.map (contentsItem d)
      = doc.groups.entries.map fun e => contentsItem d e.1 := by
    unfold SortedMap.keys
    rw [List.map_map]
    rfl
  unfold document contents linksOf sectionsOf
  rw [hlinks]
  simp only [String.append_assoc]

/-- What a document holds before the link of a group, given the groups that come before it. -/
def upToLink : String :=
  preamble d listing ++ d.heading 2 "Contents" none ++ linksOf d earlier

/-- What a document holds between the link and the section of a group, given the groups that come
before it and after it. -/
def linkToSection : String :=
  linksOf d later ++ "\n" ++ sectionsOf d listing earlier

end ApiDocs.Markup
