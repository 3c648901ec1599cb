import ApiDocs.SortedMap

/-!
# What a sorted map holds

A map is described by the values at its keys: an entry is in the map exactly when its value is the
one at its key (`mem_entries_iff`), an insertion changes the value at its own key only, and maps
with the same values at all keys are equal (`ext_get?`), because the order of the entries leaves no
choice.
-/

set_option autoImplicit false

namespace ApiDocs.SortedMap

variable {κ ν : Type} [TextKey κ]

theorem text_beq_iff {a b : κ} : (TextKey.text a == TextKey.text b) = true ↔ a = b := by
  rw [beq_iff_eq]
  exact ⟨TextKey.text_injective a b, fun h => h ▸ rfl⟩

/-- An entry is in the map exactly when its value is the one at its key. -/
theorem mem_entries_iff {m : SortedMap κ ν} {k : κ} {v : ν} :
    (k, v) ∈ m.entries ↔ m.get? k = some v := by
  unfold get?
  obtain ⟨entries, hasc⟩ := m
  induction entries with
  | nil => simp
  | cons e rest ih =>
    obtain ⟨hhead, htail⟩ := List.pairwise_cons.1 hasc
    by_cases hk : e.1 = k
    -- The keys behind an entry are greater than its own, so the key cannot come again.
    · have hrest : ∀ w, (k, w) ∉ rest := by
        intro w hw
        have hbefore := hhead _ hw
        rw [hk] at hbefore
        exact TextKey.before_irrefl k hbefore
      have hfound : (TextKey.text e.1 == TextKey.text k) = true := text_beq_iff.2 hk
      simp only [List.mem_cons, hrest v, or_false, List.find?_cons, hfound, Option.map_some,
        Option.some.injEq]
      constructor
      · rintro rfl
        rfl
      · rintro rfl
        rw [← hk]
    · have hother : (TextKey.text e.1 == TextKey.text k) = false := by
        rw [Bool.eq_false_iff]
        exact fun h => hk (text_beq_iff.1 h)
      have hne : (k, v) ≠ e := by
        rintro rfl
        exact hk rfl
      simp only [List.mem_cons, hne, false_or, List.find?_cons, hother]
      exact ih htail

@[simp]
theorem get?_empty (k : κ) : (empty : SortedMap κ ν).get? k = none :=
  rfl

/-- A key is in the map exactly when there is a value at it. -/
theorem contains_iff {m : SortedMap κ ν} {k : κ} :
    m.contains k = true ↔ ∃ v, m.get? k = some v := by
  simp only [contains, List.any_eq_true, text_beq_iff, ← mem_entries_iff]
  constructor
  · rintro ⟨e, he, rfl⟩
    exact ⟨e.2, he⟩
  · rintro ⟨v, hv⟩
    exact ⟨(k, v), hv, rfl⟩

theorem contains_iff_mem_keys {m : SortedMap κ ν} {k : κ} :
    m.contains k = true ↔ k ∈ m.keys := by
  simp only [contains, keys, List.any_eq_true, text_beq_iff, List.mem_map]

theorem pairwise_keys (m : SortedMap κ ν) : m.keys.Pairwise TextKey.Before :=
  List.pairwise_map.2 m.ascending

theorem nodup_keys (m : SortedMap κ ν) : m.keys.Nodup := by
  refine m.pairwise_keys.imp ?_
  rintro a _ hbefore rfl
  exact TextKey.before_irrefl a hbefore

/-- After an insertion the entries are the new one and those at other keys. -/
theorem mem_insertEntry_iff {k : κ} {v : ν} {entries : List (κ × ν)} (h : Ascending entries)
    {x : κ × ν} : x ∈ insertEntry k v entries ↔ x = (k, v) ∨ x.1 ≠ k ∧ x ∈ entries := by
  induction entries with
  | nil => simp [insertEntry]
  | cons e rest ih =>
    obtain ⟨hhead, htail⟩ := List.pairwise_cons.1 h
    have ne_of_before : ∀ {a b : κ}, TextKey.Before a b → a ≠ b := by
      rintro a _ hab rfl
      exact TextKey.before_irrefl a hab
    unfold insertEntry
    split
    · next hke =>
      have hother : x ∈ e :: rest → x.1 ≠ k := by
        intro hx
        rcases List.mem_cons.1 hx with rfl | hx
        · exact (ne_of_before hke).symm
        · exact (ne_of_before (TextKey.before_trans hke (hhead x hx))).symm
      rw [List.mem_cons]
      exact or_congr_right ⟨fun hx => ⟨hother hx, hx⟩, fun hx => hx.2⟩
    · next hke =>
      split
      · next hek =>
        rw [List.mem_cons, List.mem_cons, ih htail]
        constructor
        · rintro (rfl | rfl | ⟨hx, hmem⟩)
          · exact Or.inr ⟨ne_of_before hek, Or.inl rfl⟩
          · exact Or.inl rfl
          · exact Or.inr ⟨hx, Or.inr hmem⟩
        · rintro (rfl | ⟨hx, rfl | hmem⟩)
          · exact Or.inr (Or.inl rfl)
          · exact Or.inl rfl
          · exact Or.inr (Or.inr ⟨hx, hmem⟩)
      · next hek =>
        have same : k = e.1 := TextKey.eq_of_not_before hke hek
        rw [List.mem_cons, List.mem_cons]
        constructor
        · rintro (rfl | hx)
          · exact Or.inl rfl
          · exact Or.inr ⟨fun hk => ne_of_before (hhead x hx) (same ▸ hk.symm), Or.inr hx⟩
        · rintro (rfl | ⟨hx, rfl | hmem⟩)
          · exact Or.inl rfl
          · exact absurd same.symm hx
          · exact Or.inr hmem

theorem get?_insert_self (m : SortedMap κ ν) (k : κ) (v : ν) : (m.insert k v).get? k = some v :=
  mem_entries_iff.1 ((mem_insertEntry_iff m.ascending).2 (Or.inl rfl))

/-- An insertion changes nothing at other keys. -/
theorem get?_insert_of_ne (m : SortedMap κ ν) {k x : κ} (v : ν) (hx : x ≠ k) :
    (m.insert k v).get? x = m.get? x := by
  apply Option.ext
  intro w
  rw [← mem_entries_iff, ← mem_entries_iff]
  have hmem : (x, w) ∈ insertEntry k v m.entries ↔ (x, w) = (k, v) ∨ x ≠ k ∧ (x, w) ∈ m.entries :=
    mem_insertEntry_iff m.ascending
  have hnew : (x, w) ≠ (k, v) := fun heq => hx (congrArg Prod.fst heq)
  exact hmem.trans (by simp [hnew, hx])

/-- A new key comes in between the smaller keys and the greater ones, which stay as they are. -/
theorem exists_entries_insert (m : SortedMap κ ν) {k : κ} (v : ν) (hk : k ∉ m.keys) :
    ∃ earlier later, m.entries = earlier ++ later ∧
      (m.insert k v).entries = earlier ++ (k, v) :: later ∧
      (∀ e ∈ earlier, TextKey.Before e.1 k) ∧ ∀ e ∈ later, TextKey.Before k e.1 := by
  obtain ⟨entries, hasc⟩ := m
  change k ∉ entries.map Prod.fst at hk
  change ∃ earlier later, entries = earlier ++ later ∧
    insertEntry k v entries = earlier ++ (k, v) :: later ∧ _
  induction entries with
  | nil => exact ⟨[], [], rfl, rfl, by simp, by simp⟩
  | cons e rest ih =>
    obtain ⟨hhead, htail⟩ := List.pairwise_cons.1 hasc
    rw [List.map_cons, List.mem_cons, not_or] at hk
    obtain ⟨hne, hrest⟩ := hk
    unfold insertEntry
    by_cases hke : TextKey.Before k e.1
    · rw [if_pos hke]
      refine ⟨[], e :: rest, rfl, rfl, by simp, ?_⟩
      intro x hx
      rcases List.mem_cons.1 hx with rfl | hx
      · exact hke
      · exact TextKey.before_trans hke (hhead x hx)
    · have hek : TextKey.Before e.1 k :=
        Decidable.byContradiction fun hek => hne (TextKey.eq_of_not_before hke hek)
      rw [if_neg hke, if_pos hek]
      obtain ⟨earlier, later, hentries, hinsert, hearlier, hlater⟩ := ih htail hrest
      refine ⟨e :: earlier, later, by rw [hentries]; rfl, by rw [hinsert]; rfl, ?_, hlater⟩
      intro x hx
      rcases List.mem_cons.1 hx with rfl | hx
      · exact hek
      · exact hearlier x hx

/-- Maps with the same values at all keys are equal. -/
theorem ext_get? {m n : SortedMap κ ν} (h : ∀ k, m.get? k = n.get? k) : m = n := by
  have nodup : ∀ l : SortedMap κ ν, l.entries.Nodup := fun l =>
    List.Pairwise.of_map Prod.fst (fun _ _ hne heq => hne (congrArg Prod.fst heq)) l.nodup_keys
  have hperm : m.entries.Perm n.entries := by
    rw [List.perm_ext_iff_of_nodup (nodup m) (nodup n)]
    rintro ⟨k, v⟩
    rw [mem_entries_iff, mem_entries_iff, h]
  apply SortedMap.ext
  apply hperm.eq_of_pairwise _ m.ascending n.ascending
  intro a b _ _ hab hba
  exact absurd (TextKey.before_trans hab hba) (TextKey.before_irrefl _)

/-! ## Several entries at once -/

/-- Of several insertions at one key the last one counts. -/
theorem get?_insertAll_eq (m : SortedMap κ ν) (entries : List (κ × ν)) (k : κ) :
    (m.insertAll entries).get? k
      = ((entries.reverse.find? fun e => TextKey.text e.1 == TextKey.text k).map Prod.snd).or
          (m.get? k) := by
  induction entries generalizing m with
  | nil => rfl
  | cons e rest ih =>
    show ((m.insert e.1 e.2).insertAll rest).get? k = _
    rw [ih, List.reverse_cons, List.find?_append, Option.map_or, Option.or_assoc]
    congr 1
    by_cases hk : e.1 = k
    · subst hk
      simp [get?_insert_self]
    · have hother : (TextKey.text e.1 == TextKey.text k) = false :=
        Bool.eq_false_iff.2 fun h => hk (text_beq_iff.1 h)
      simp [get?_insert_of_ne m e.2 (Ne.symm hk), hother]

/-- The value at a key of a map made from a list is that of the last entry with the key. -/
theorem get?_ofList (entries : List (κ × ν)) (k : κ) :
    (ofList entries).get? k
      = (entries.reverse.find? fun e => TextKey.text e.1 == TextKey.text k).map Prod.snd := by
  rw [ofList, get?_insertAll_eq, get?_empty, Option.or_none]

/-- A value after several insertions is one of those put in, or was there before. -/
theorem get?_insertAll {m : SortedMap κ ν} {entries : List (κ × ν)} {k : κ} {v : ν}
    (h : (m.insertAll entries).get? k = some v) : (k, v) ∈ entries ∨ m.get? k = some v := by
  rw [get?_insertAll_eq, Option.or_eq_some_iff] at h
  refine h.imp (fun hlast => ?_) And.right
  obtain ⟨e, he, rfl⟩ := Option.map_eq_some_iff.1 hlast
  have hkey := List.find?_some he
  obtain rfl : e.1 = k := text_beq_iff.1 hkey
  exact List.mem_reverse.1 (List.mem_of_find?_eq_some he)

/-- The keys after several insertions are those put in and those that were there before. -/
theorem contains_insertAll {m : SortedMap κ ν} {entries : List (κ × ν)} {k : κ} :
    (m.insertAll entries).contains k = true
      ↔ (∃ v, (k, v) ∈ entries) ∨ m.contains k = true := by
  induction entries generalizing m with
  | nil => simp [insertAll]
  | cons e rest ih =>
    show ((m.insert e.1 e.2).insertAll rest).contains k = true ↔ _
    rw [ih, contains_insert, Bool.or_eq_true, text_beq_iff, ← or_assoc]
    refine or_congr_left ?_
    constructor
    · rintro (⟨v, hv⟩ | rfl)
      · exact ⟨v, List.mem_cons_of_mem e hv⟩
      · exact ⟨e.2, List.mem_cons_self⟩
    · rintro ⟨v, hv⟩
      rcases List.mem_cons.1 hv with rfl | hv
      · exact Or.inr rfl
      · exact Or.inl ⟨v, hv⟩

theorem get?_insertAll_of_not_mem {m : SortedMap κ ν} {entries : List (κ × ν)} {k : κ}
    (h : ∀ e ∈ entries, e.1 ≠ k) : (m.insertAll entries).get? k = m.get? k := by
  have hnone : entries.reverse.find? (fun e => TextKey.text e.1 == TextKey.text k) = none := by
    rw [List.find?_eq_none]
    exact fun e he => mt text_beq_iff.1 (h e (List.mem_reverse.1 he))
  rw [get?_insertAll_eq, hnone, Option.map_none, Option.none_or]

/-- When a whole map is put into another one, its values are the ones that count. -/
theorem get?_insertAll_entries (m n : SortedMap κ ν) (k : κ) :
    (m.insertAll n.entries).get? k = (n.get? k).or (m.get? k) := by
  cases hn : n.get? k with
  | none =>
    have hother : ∀ e ∈ n.entries, e.1 ≠ k := by
      rintro ⟨_, v⟩ he rfl
      rw [mem_entries_iff.1 he] at hn
      cases hn
    rw [get?_insertAll_of_not_mem hother, Option.none_or]
  | some v =>
    obtain ⟨before, after, hsplit⟩ := List.append_of_mem (mem_entries_iff.2 hn)
    have hasc : Ascending (before ++ (k, v) :: after) := hsplit ▸ n.ascending
    -- The keys behind the entry are greater than its own, so its value is put in last.
    have hafter : ∀ e ∈ after, e.1 ≠ k := by
      rintro e he rfl
      have hbefore := (List.pairwise_cons.1 (List.pairwise_append.1 hasc).2.1).1 e he
      exact TextKey.before_irrefl _ hbefore
    have hinsert : m.insertAll n.entries
        = ((m.insertAll before).insert k v).insertAll after := by
      rw [hsplit]
      unfold insertAll
      rw [List.foldl_append, List.foldl_cons]
    rw [hinsert, get?_insertAll_of_not_mem hafter, get?_insert_self, Option.some_or]

/-- A map is made of its entries. -/
theorem ofList_entries (m : SortedMap κ ν) : ofList m.entries = m := by
  apply ext_get?
  intro k
  unfold ofList
  rw [get?_insertAll_entries, get?_empty, Option.or_none]

/-- Ascending entries are the entries of their map. -/
theorem entries_ofList {entries : List (κ × ν)} (h : Ascending entries) :
    (ofList entries).entries = entries :=
  congrArg SortedMap.entries (ofList_entries ⟨entries, h⟩)

/-- Every entry of a map made from a list is in the list. -/
theorem mem_of_mem_ofList {entries : List (κ × ν)} {e : κ × ν}
    (h : e ∈ (ofList entries).entries) : e ∈ entries := by
  rcases get?_insertAll (mem_entries_iff.1 h) with hmem | hempty
  · exact hmem
  · cases hempty

/-- A map computed from another one has the computed values at the same keys. -/
theorem get?_map {μ : Type} (f : κ → ν → μ) (m : SortedMap κ ν) (k : κ) :
    (m.map f).get? k = (m.get? k).map (f k) := by
  apply Option.ext
  intro w
  rw [← mem_entries_iff, Option.map_eq_some_iff]
  simp only [← mem_entries_iff, map, List.mem_map, Prod.mk.injEq]
  constructor
  · rintro ⟨⟨x, v⟩, hmem, rfl, rfl⟩
    exact ⟨v, hmem, rfl⟩
  · rintro ⟨v, hmem, rfl⟩
    exact ⟨(k, v), hmem, rfl, rfl⟩

end ApiDocs.SortedMap
