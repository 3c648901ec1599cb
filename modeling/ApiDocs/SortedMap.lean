/-!
# Sorted maps

Finite maps that list their entries in ascending order of the keys' texts. A map is its list of
entries together with the fact that the order is strict, so two maps with the same entries are
equal, and walking a map always meets the keys in the same order.
-/

set_option autoImplicit false

namespace ApiDocs

/-- Keys that are told apart by a text. -/
class TextKey (κ : Type) where
  /-- The text of a key. -/
  text : κ → String
  /-- Keys with the same text are the same. -/
  text_injective : ∀ a b : κ, text a = text b → a = b

instance : TextKey String where
  text := id
  text_injective _ _ h := h

variable {κ ν : Type} [TextKey κ]

/-- Whether one key comes before another. -/
def TextKey.Before (a b : κ) : Prop :=
  TextKey.text a < TextKey.text b

instance (a b : κ) : Decidable (TextKey.Before a b) :=
  inferInstanceAs (Decidable (TextKey.text a < TextKey.text b))

/-- Of two keys, one comes first unless they are the same. -/
theorem TextKey.eq_of_not_before {a b : κ} (hab : ¬ TextKey.Before a b)
    (hba : ¬ TextKey.Before b a) : a = b :=
  TextKey.text_injective a b (String.le_antisymm (String.not_lt.1 hba) (String.not_lt.1 hab))

/-- No key comes before itself. -/
theorem TextKey.before_irrefl (a : κ) : ¬ TextKey.Before a a :=
  String.lt_irrefl _

/-- The order of keys is transitive. -/
theorem TextKey.before_trans {a b c : κ} (hab : TextKey.Before a b) (hbc : TextKey.Before b c) :
    TextKey.Before a c :=
  String.lt_trans hab hbc

/-- The keys of a list of entries are strictly ascending. -/
def Ascending (entries : List (κ × ν)) : Prop :=
  entries.Pairwise fun x y => TextKey.Before x.1 y.1

/-- A finite map with its entries in ascending order of the keys. -/
structure SortedMap (κ ν : Type) [TextKey κ] where
  /-- The entries in order. -/
  entries : List (κ × ν)
  /-- The keys are strictly ascending. -/
  ascending : Ascending entries

namespace SortedMap

/-- Put an entry at its place in a list of entries, over any entry with the same key. -/
def insertEntry (k : κ) (v : ν) : List (κ × ν) → List (κ × ν)
  | [] => [(k, v)]
  | e :: rest =>
    if TextKey.Before k e.1 then (k, v) :: e :: rest
    else if TextKey.Before e.1 k then e :: insertEntry k v rest
    else (k, v) :: rest

/-- Every entry after an insertion is the new one or was there before. -/
theorem mem_insertEntry {k : κ} {v : ν} {entries : List (κ × ν)} {x : κ × ν}
    (h : x ∈ insertEntry k v entries) : x = (k, v) ∨ x ∈ entries := by
  induction entries with
  | nil => simpa [insertEntry] using h
  | cons e rest ih =>
    unfold insertEntry at h
    split at h
    · simpa using h
    · split at h
      · rcases List.mem_cons.1 h with h | h
        · exact Or.inr (h ▸ List.mem_cons_self)
        · exact (ih h).imp id (List.mem_cons_of_mem e)
      · exact (List.mem_cons.1 h).imp id (List.mem_cons_of_mem e)

/-- Insertion keeps the keys ascending. -/
theorem ascending_insertEntry (k : κ) (v : ν) {entries : List (κ × ν)}
    (h : Ascending entries) : Ascending (insertEntry k v entries) := by
  induction entries with
  | nil => exact List.pairwise_singleton _ _
  | cons e rest ih =>
    obtain ⟨hhead, htail⟩ := List.pairwise_cons.1 h
    unfold insertEntry
    split
    · next hke =>
      refine List.pairwise_cons.2 ⟨fun x hx => ?_, h⟩
      rcases List.mem_cons.1 hx with rfl | hx
      · exact hke
      · exact TextKey.before_trans hke (hhead x hx)
    · next hke =>
      split
      · next hek =>
        refine List.pairwise_cons.2 ⟨fun x hx => ?_, ih htail⟩
        rcases mem_insertEntry hx with rfl | hx
        · exact hek
        · exact hhead x hx
      · next hek =>
        have same : k = e.1 := TextKey.eq_of_not_before hke hek
        exact List.pairwise_cons.2 ⟨fun x hx => same ▸ hhead x hx, htail⟩

/-- The map without entries. -/
def empty : SortedMap κ ν :=
  ⟨[], List.Pairwise.nil⟩

instance : Inhabited (SortedMap κ ν) :=
  ⟨empty⟩

/-- The map with one more entry; an entry with the same key is replaced. -/
def insert (m : SortedMap κ ν) (k : κ) (v : ν) : SortedMap κ ν :=
  ⟨insertEntry k v m.entries, ascending_insertEntry k v m.ascending⟩

/-- The map with all entries of a list put in, one after the other. -/
def insertAll (m : SortedMap κ ν) (entries : List (κ × ν)) : SortedMap κ ν :=
  entries.foldl (fun m e => m.insert e.1 e.2) m

/-- The map of the entries of a list; of entries with the same key the last one counts. -/
def ofList (entries : List (κ × ν)) : SortedMap κ ν :=
  empty.insertAll entries

/-- The value at a key. -/
def get? (m : SortedMap κ ν) (k : κ) : Option ν :=
  (m.entries.find? fun e => TextKey.text e.1 == TextKey.text k).map Prod.snd

/-- Whether a key has an entry. -/
def contains (m : SortedMap κ ν) (k : κ) : Bool :=
  m.entries.any fun e => TextKey.text e.1 == TextKey.text k

/-- After an insertion the new key has an entry, and so has every key that had one. -/
theorem contains_insert (m : SortedMap κ ν) (k : κ) (v : ν) (x : κ) :
    (m.insert k v).contains x = (TextKey.text x == TextKey.text k || m.contains x) := by
  have aux (entries : List (κ × ν)) :
      (insertEntry k v entries).any (fun e => TextKey.text e.1 == TextKey.text x)
        = (TextKey.text x == TextKey.text k
          || entries.any fun e => TextKey.text e.1 == TextKey.text x) := by
    induction entries with
    | nil =>
      simp only [insertEntry, List.any_cons, List.any_nil, Bool.or_false]
      exact BEq.comm
    | cons e rest ih =>
      unfold insertEntry
      split
      · rw [List.any_cons, BEq.comm]
      · split
        · rw [List.any_cons, List.any_cons, ih, Bool.or_left_comm]
        · next hke hek =>
          have same : e.1 = k := (TextKey.eq_of_not_before hke hek).symm
          rw [List.any_cons, List.any_cons, same, BEq.comm, ← Bool.or_assoc, Bool.or_self]
  exact aux m.entries

/-- The keys in ascending order. -/
def keys (m : SortedMap κ ν) : List κ :=
  m.entries.map Prod.fst

/-- The values in the order of their keys. -/
def values (m : SortedMap κ ν) : List ν :=
  m.entries.map Prod.snd

/-- The number of entries. -/
def size (m : SortedMap κ ν) : Nat :=
  m.entries.length

/-- Whether the map has no entries. -/
def isEmpty (m : SortedMap κ ν) : Bool :=
  m.entries.isEmpty

/-- Changing the values of entries keeps the keys ascending. -/
theorem ascending_map {μ : Type} (f : κ → ν → μ) {entries : List (κ × ν)}
    (h : Ascending entries) : Ascending (entries.map fun e => (e.1, f e.1 e.2)) :=
  List.pairwise_map.2 h

/-- The map with each value computed from its key and its old value. -/
def map {μ : Type} (f : κ → ν → μ) (m : SortedMap κ ν) : SortedMap κ μ :=
  ⟨m.entries.map fun e => (e.1, f e.1 e.2), ascending_map f m.ascending⟩

/-- Maps with the same entries are equal. -/
@[ext]
theorem ext {m n : SortedMap κ ν} (h : m.entries = n.entries) : m = n := by
  cases m; cases n; cases h; rfl

instance [DecidableEq κ] [DecidableEq ν] : DecidableEq (SortedMap κ ν) := fun m n =>
  if h : m.entries = n.entries then isTrue (ext h) else isFalse fun e => h (e ▸ rfl)

end SortedMap

end ApiDocs
