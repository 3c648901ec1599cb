import ApiDocs.Markup.Document
import ApiDocs.Proofs.GroupKey
import Mathlib.Data.List.Forall2
import Mathlib.Data.List.Count
import Mathlib.Data.List.Nodup

/-!
# Links of the list of contents and the headings they lead to

A document is a row of blocks, the same in each dialect (`document_eq_blocks`). Its links carry the
anchors of the groups in the order of their keys, and so do the headings that have an anchor, which
are those of the sections (`links_blocks`, `anchored_blocks`). A link leads to the section of its own
group and to no other exactly if no two keys look alike to a reader who sees nothing but ASCII
letters and digits (`anchor_eq_iff`).
-/

set_option autoImplicit false

namespace ApiDocs.Markup

/-- A part of a document that a dialect writes in its own way. -/
inductive Block
  | heading (level : Nat) (text : String) (anchor : Option String)
  | link (anchor text : String)
  | paragraph (text : String)
  | table (columns : List String) (rows : List (List String))
  | emptyLine

namespace Block

/-- How a dialect writes a block. -/
def write (d : Dialect) : Block → String
  | heading level text anchor => d.heading level text anchor
  | link anchor text => d.anchorItem anchor text
  | paragraph text => Markup.paragraph text
  | table columns rows => d.table columns rows
  | emptyLine => "\n"

/-- The anchor that a link leads to. -/
def target? : Block → Option String
  | link anchor _ => some anchor
  | _ => none

/-- The anchor and the text of a heading with an anchor. -/
def anchored? : Block → Option (String × String)
  | heading _ text (some anchor) => some (anchor, text)
  | _ => none

/-! ## The blocks of a document -/

def ofText (label text : String) : List Block :=
  if text = "" then [] else [paragraph (label ++ text)]

def ofRows (title : String) (columns : List String) (rows : List (List String)) : List Block :=
  if rows.isEmpty then [] else [heading 4 title none, table columns rows]

def ofModel (m : Model) : List Block :=
  [heading 4 m.id none,
    table ["Property", "Type", "Format", "Required", "Description"]
      (m.properties.entries.map (propertyRow m))]

def ofModels (models : SortedMap String Model) : List Block :=
  if models.isEmpty then [] else heading 3 "Models" none :: models.values.flatMap ofModel

def ofOperation (e : String × Operation) : List Block :=
  heading 3 (e.2.httpMethod ++ " " ++ e.1) none :: (ofText "" e.2.summary ++ ofText "" e.2.notes
    ++ ofRows "Parameters" ["Name", "Located in", "Type", "Required", "Description"]
      (e.2.parameters.map parameterRow)
    ++ ofRows "Responses" ["Code", "Message", "Model"] (e.2.responseMessages.map responseRow))

/-- What comes behind the heading of a group. -/
def ofDeclaration (description : String) (declaration : ApiDeclaration) : List Block :=
  ofText "" description
    ++ [table ["Method", "Path", "Summary"] ((operations declaration.apis).map summaryRow)]
    ++ (operations declaration.apis).flatMap ofOperation ++ ofModels declaration.models

/-- The section of a group. -/
def ofGroup (listing : ResourceListing) (e : GroupKey × ApiDeclaration) : List Block :=
  heading 2 e.1.resourcePath (some (anchor e.1))
    :: ofDeclaration (groupDescription listing e.1) e.2

/-- What comes before the links. -/
def ofListing (listing : ResourceListing) : List Block :=
  heading 1 (title listing) none :: (ofText "" listing.info.description
    ++ ofText "Version: " listing.apiVersion ++ ofText "Base path: " listing.basePath
    ++ [heading 2 "Contents" none])

def ofKey (key : GroupKey) : Block :=
  link (anchor key) key.resourcePath

end Block

/-- The blocks of a document. -/
def blocks (doc : Documentation) : List Block :=
  Block.ofListing doc.listing ++ doc.groups.keys.map Block.ofKey ++ [.emptyLine]
    ++ doc.groups.entries.flatMap (Block.ofGroup doc.listing)

/-- A row of blocks as a dialect writes it. -/
def written (d : Dialect) (row : List Block) : String :=
  String.join (row.map (Block.write d))

section Written

variable (d : Dialect)

theorem written_nil : written d [] = "" := rfl

theorem written_cons (b : Block) (row : List Block) :
    written d (b :: row) = b.write d ++ written d row := by
  unfold written
  rw [List.map_cons, String.join_cons]

theorem written_append (row next : List Block) :
    written d (row ++ next) = written d row ++ written d next := by
  unfold written
  rw [List.map_append, String.join_append]

theorem written_flatMap {α : Type} (l : List α) (f : α → List Block) :
    written d (l.flatMap f) = String.join (l.map fun a => written d (f a)) := by
  induction l with
  | nil => rfl
  | cons a l ih => rw [List.flatMap_cons, written_append, ih, List.map_cons, String.join_cons]

theorem written_ofText (label text : String) :
    written d (Block.ofText label text) = labelled label text := by
  unfold Block.ofText labelled
  split
  · rfl
  · rw [written_cons, written_nil, String.append_empty]
    rfl

theorem labelled_empty (text : String) : labelled "" text = paragraphUnlessEmpty text := by
  unfold labelled paragraphUnlessEmpty
  rw [String.empty_append]

theorem written_ofRows {α : Type} (title : String) (columns : List String) (l : List α)
    (row : α → List String) :
    written d (Block.ofRows title columns (l.map row))
      = if l.isEmpty then "" else d.heading 4 title none ++ d.table columns (l.map row) := by
  unfold Block.ofRows
  rw [List.isEmpty_map]
  split
  · rfl
  · rw [written_cons, written_cons, written_nil, String.append_empty]
    rfl

theorem written_ofModel (m : Model) : written d (Block.ofModel m) = model d m := by
  unfold Block.ofModel
  rw [written_cons, written_cons, written_nil, String.append_empty]
  rfl

theorem written_ofModels (ms : SortedMap String Model) :
    written d (Block.ofModels ms) = models d ms := by
  unfold Block.ofModels models
  split
  · rfl
  · have hmodels : (fun m => written d (Block.ofModel m)) = model d := funext (written_ofModel d)
    rw [written_cons, written_flatMap, hmodels]
    rfl

theorem written_ofOperation (e : String × Operation) :
    written d (Block.ofOperation e) = operation d e.1 e.2 := by
  unfold Block.ofOperation operation
  rw [written_cons, written_append, written_append, written_append, written_ofText,
    written_ofText, written_ofRows, written_ofRows, labelled_empty, labelled_empty]
  unfold parameters responses
  simp only [Block.write, String.append_assoc]

theorem written_ofGroup (listing : ResourceListing) (e : GroupKey × ApiDeclaration) :
    written d (Block.ofGroup listing e)
      = groupSection d (groupDescription listing e.1) e.1 e.2 := by
  have hoperations : (fun o => written d (Block.ofOperation o)) = fun o => operation d o.1 o.2 :=
    funext (written_ofOperation d)
  unfold Block.ofGroup Block.ofDeclaration groupSection
  rw [written_cons, written_append, written_append, written_append, written_ofText, labelled_empty,
    written_flatMap, written_ofModels, hoperations]
  simp only [written_cons, written_nil, Block.write, String.append_empty, String.append_assoc]

/-- A document is its blocks, one after the other. -/
theorem document_eq_blocks (doc : Documentation) : document d doc = written d (blocks doc) := by
  have hgroups : (fun e => written d (Block.ofGroup doc.listing e))
      = fun e => groupSection d (groupDescription doc.listing e.1) e.1 e.2 :=
    funext (written_ofGroup d doc.listing)
  have hlinks : written d (doc.groups.keys.map Block.ofKey)
      = String.join (doc.groups.keys.map (contentsItem d)) := by
    unfold written
    rw [List.map_map]
    rfl
  unfold document preamble contents blocks Block.ofListing
  rw [written_append, written_append, written_append, written_cons, written_append,
    written_append, written_append, written_ofText, written_ofText, written_ofText, labelled_empty,
    written_flatMap, hlinks, hgroups]
  simp only [written_cons, written_nil, Block.write, String.append_empty, String.append_assoc]

end Written

/-! ## Links and anchors -/

/-- The anchors that the links of a row of blocks lead to. -/
def links (row : List Block) : List String :=
  row.filterMap Block.target?

/-- The headings with an anchor in a row of blocks, each as its anchor and its text. -/
def anchored (row : List Block) : List (String × String) :=
  row.filterMap Block.anchored?

/-- A row of blocks without links and anchors. -/
def IsPlain (row : List Block) : Prop :=
  ∀ b ∈ row, b.target? = none ∧ b.anchored? = none

section IsPlain

variable {row next : List Block}

theorem IsPlain.links_eq (h : IsPlain row) : links row = [] :=
  List.filterMap_eq_nil_iff.2 fun b hb => (h b hb).1

theorem IsPlain.anchored_eq (h : IsPlain row) : anchored row = [] :=
  List.filterMap_eq_nil_iff.2 fun b hb => (h b hb).2

theorem IsPlain.append (h : IsPlain row) (h' : IsPlain next) : IsPlain (row ++ next) := by
  intro b hb
  rcases List.mem_append.1 hb with hb | hb
  · exact h b hb
  · exact h' b hb

theorem isPlain_cons {b : Block} (hb : b.target? = none ∧ b.anchored? = none)
    (h : IsPlain row) : IsPlain (b :: row) :=
  List.forall_mem_cons.2 ⟨hb, h⟩

theorem isPlain_nil : IsPlain [] :=
  fun _ hb => absurd hb List.not_mem_nil

theorem isPlain_flatMap {α : Type} {l : List α} {f : α → List Block} (h : ∀ a, IsPlain (f a)) :
    IsPlain (l.flatMap f) := by
  intro b hb
  obtain ⟨a, -, hb⟩ := List.mem_flatMap.1 hb
  exact h a b hb

theorem isPlain_ofText (label text : String) : IsPlain (Block.ofText label text) := by
  unfold Block.ofText
  split
  · exact isPlain_nil
  · exact isPlain_cons ⟨rfl, rfl⟩ isPlain_nil

theorem isPlain_ofRows (title : String) (columns : List String) (rows : List (List String)) :
    IsPlain (Block.ofRows title columns rows) := by
  unfold Block.ofRows
  split
  · exact isPlain_nil
  · exact isPlain_cons ⟨rfl, rfl⟩ (isPlain_cons ⟨rfl, rfl⟩ isPlain_nil)

theorem isPlain_ofModels (ms : SortedMap String Model) : IsPlain (Block.ofModels ms) := by
  have hmodel : ∀ m, IsPlain (Block.ofModel m) := fun m =>
    isPlain_cons ⟨rfl, rfl⟩ (isPlain_cons ⟨rfl, rfl⟩ isPlain_nil)
  unfold Block.ofModels
  split
  · exact isPlain_nil
  · exact isPlain_cons ⟨rfl, rfl⟩ (isPlain_flatMap hmodel)

theorem isPlain_ofOperation (e : String × Operation) : IsPlain (Block.ofOperation e) := by
  refine isPlain_cons ⟨rfl, rfl⟩ ?_
  refine .append (.append (.append ?_ ?_) ?_) ?_
  · exact isPlain_ofText "" e.2.summary
  · exact isPlain_ofText "" e.2.notes
  · exact isPlain_ofRows _ _ _
  · exact isPlain_ofRows _ _ _

theorem isPlain_ofDeclaration (description : String) (declaration : ApiDeclaration) :
    IsPlain (Block.ofDeclaration description declaration) := by
  refine .append (.append (.append ?_ ?_) ?_) ?_
  · exact isPlain_ofText "" description
  · exact isPlain_cons ⟨rfl, rfl⟩ isPlain_nil
  · exact isPlain_flatMap isPlain_ofOperation
  · exact isPlain_ofModels declaration.models

theorem isPlain_ofListing (listing : ResourceListing) : IsPlain (Block.ofListing listing) := by
  refine isPlain_cons ⟨rfl, rfl⟩ ?_
  refine .append (.append (.append ?_ ?_) ?_) ?_
  · exact isPlain_ofText "" listing.info.description
  · exact isPlain_ofText _ listing.apiVersion
  · exact isPlain_ofText _ listing.basePath
  · exact isPlain_cons ⟨rfl, rfl⟩ isPlain_nil

end IsPlain

/-- The links of a document lead to the anchors of the groups, in the order of their keys. -/
theorem links_blocks (doc : Documentation) :
    links (blocks doc) = doc.groups.keys.map anchor := by
  have hkeys : links (doc.groups.keys.map Block.ofKey) = doc.groups.keys.map anchor := by
    unfold links
    rw [List.filterMap_map]
    exact congrFun (List.filterMap_eq_map (f := anchor)) _
  have hgroups : links (doc.groups.entries.flatMap (Block.ofGroup doc.listing)) = [] := by
    refine List.filterMap_eq_nil_iff.2 fun b hb => ?_
    obtain ⟨e, -, hb⟩ := List.mem_flatMap.1 hb
    rcases List.mem_cons.1 hb with rfl | hb
    · rfl
    · exact (isPlain_ofDeclaration _ _ b hb).1
  have hlisting := (isPlain_ofListing doc.listing).links_eq
  unfold blocks
  unfold links at *
  rw [List.filterMap_append, List.filterMap_append, List.filterMap_append, hlisting, hkeys,
    hgroups]
  simp [Block.target?]

/-- The headings with an anchor are those of the groups, in the order of their keys. -/
theorem anchored_blocks (doc : Documentation) :
    anchored (blocks doc) = doc.groups.keys.map fun key => (anchor key, key.resourcePath) := by
  have hkeys : anchored (doc.groups.keys.map Block.ofKey) = [] := by
    refine List.filterMap_eq_nil_iff.2 fun b hb => ?_
    obtain ⟨key, -, rfl⟩ := List.mem_map.1 hb
    rfl
  have hgroup : ∀ e, anchored (Block.ofGroup doc.listing e) = [(anchor e.1, e.1.resourcePath)] := by
    intro e
    have hplain := (isPlain_ofDeclaration (groupDescription doc.listing e.1) e.2).anchored_eq
    unfold anchored at *
    rw [Block.ofGroup, List.filterMap_cons, hplain]
    rfl
  have hgroups : anchored (doc.groups.entries.flatMap (Block.ofGroup doc.listing))
      = doc.groups.keys.map fun key => (anchor key, key.resourcePath) := by
    unfold anchored SortedMap.keys at *
    rw [List.filterMap_flatMap, List.map_map, List.map_eq_flatMap]
    simp only [hgroup, Function.comp_apply]
  have hlisting := (isPlain_ofListing doc.listing).anchored_eq
  unfold blocks
  unfold anchored at *
  rw [List.filterMap_append, List.filterMap_append, List.filterMap_append, hlisting, hkeys,
    hgroups]
  simp [Block.anchored?]

/-! ## Keys that anchors do not tell apart -/

/-- Characters that an anchor does not tell apart. -/
def Similar (a b : Char) : Prop :=
  a = b ∨ Text.isAsciiAlphanumeric a = false ∧ Text.isAsciiAlphanumeric b = false

instance (a b : Char) : Decidable (Similar a b) :=
  inferInstanceAs (Decidable (_ ∨ _))

/-- Keys that differ at most in characters that are neither ASCII letters nor digits. -/
def Lookalike (a b : GroupKey) : Prop :=
  List.Forall₂ Similar a.text.toList b.text.toList

theorem similar_iff {a b : Char} :
    (if Text.isAsciiAlphanumeric a then a else '-')
        = (if Text.isAsciiAlphanumeric b then b else '-') ↔ Similar a b := by
  have hdash : Text.isAsciiAlphanumeric '-' = false := by decide
  have ne_dash : ∀ {c : Char}, Text.isAsciiAlphanumeric c = true → c ≠ '-' := by
    rintro c hc rfl
    rw [hdash] at hc
    cases hc
  unfold Similar
  by_cases hab : a = b
  · simp [hab]
  · cases ha : Text.isAsciiAlphanumeric a with
    | true =>
      cases hb : Text.isAsciiAlphanumeric b with
      | true => simp [hab]
      | false => simp [hab, ne_dash ha]
    | false =>
      cases hb : Text.isAsciiAlphanumeric b with
      | true => simp [hab, (ne_dash hb).symm]
      | false => simp

theorem anchor_eq_iff {a b : GroupKey} : anchor a = anchor b ↔ Lookalike a b := by
  unfold anchor Lookalike
  rw [String.ofList_inj, ← List.forall₂_eq_eq_eq, List.forall₂_map_left_iff,
    List.forall₂_map_right_iff]
  simp only [similar_iff]

/-- Each link of a document leads to the section of its own group, whose heading has its anchor. The
anchors are pairwise distinct, and each of them is that of one heading only, exactly if no two keys
differ in nothing but characters that are neither ASCII letters nor digits. -/
theorem contents_link_sections (d : Dialect) (doc : Documentation) :
    document d doc = written d (blocks doc)
      ∧ links (blocks doc) = doc.groups.keys.map anchor
      ∧ anchored (blocks doc) = doc.groups.keys.map (fun key => (anchor key, key.resourcePath))
      ∧ ((links (blocks doc)).Nodup ↔ doc.groups.keys.Pairwise fun a b => ¬ Lookalike a b)
      ∧ ((∀ a ∈ links (blocks doc), ((anchored (blocks doc)).map Prod.fst).count a = 1)
        ↔ doc.groups.keys.Pairwise fun a b => ¬ Lookalike a b) := by
  have hlinks := links_blocks doc
  have hanchored := anchored_blocks doc
  have hsame : (anchored (blocks doc)).map Prod.fst = links (blocks doc) := by
    rw [hlinks, hanchored, List.map_map]
    rfl
  have hnodup : (links (blocks doc)).Nodup
      ↔ doc.groups.keys.Pairwise fun a b => ¬ Lookalike a b := by
    rw [hlinks]
    unfold List.Nodup
    rw [List.pairwise_map]
    simp only [ne_eq, anchor_eq_iff]
  refine ⟨document_eq_blocks d doc, hlinks, hanchored, hnodup, ?_⟩
  rw [hsame, ← hnodup, List.nodup_iff_count_eq_one]

/-- The keys `a-b` and `a/b` have the same anchor, so both links lead to the same place. -/
theorem two_groups_one_anchor :
    let dash : GroupKey := ⟨"a-b", by decide⟩
    let slash : GroupKey := ⟨"a/b", by decide⟩
    let doc : Documentation := ⟨{}, (SortedMap.empty.insert dash default).insert slash default⟩
    contents .markdown doc.groups = "## Contents\n\n* [/a-b](#a-b)\n* [/a/b](#a-b)\n\n"
      ∧ links (blocks doc) = ["a-b", "a-b"]
      ∧ ¬ (links (blocks doc)).Nodup
      ∧ ((anchored (blocks doc)).map Prod.fst).count "a-b" = 2 := by
  intro dash slash doc
  have hlinks : links (blocks doc) = ["a-b", "a-b"] := by decide
  refine ⟨by decide, hlinks, ?_, by decide⟩
  rw [hlinks]
  decide

end ApiDocs.Markup
