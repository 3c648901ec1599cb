import ApiDocs.Proofs.GroupKey
import ApiDocs.Proofs.Swagger.JsonForm
import Mathlib.Data.List.Forall2

/-!
# The JSON form of the groups

The groups are written as an object with the texts of the keys as names, so reading them back means
reading the keys back. All of it succeeds exactly if every key is tight
(`ofJson_toJson_eq_self_iff`). If one is not, it is read as a shorter key or as none, and no other
key can make up for the longest one that is lost.
-/

set_option autoImplicit false

namespace ApiDocs

open Json

namespace GroupKey

theorem decode_eq_ok_iff {text : String} {key : GroupKey} :
    decode text = .ok key ↔ parse text = .ok key := by
  unfold decode
  cases parse text with
  | error issue => simp
  | ok k => simp

end GroupKey

namespace Groups

/-- A group as it is read back: its key from the text of the key, its declaration as it was. -/
def ReadAs (written read : GroupKey × ApiDeclaration) : Prop :=
  GroupKey.parse written.1.text = .ok read.1 ∧ read.2 = written.2

/-- The members of the JSON form of some groups. -/
def membersOf (entries : List (GroupKey × ApiDeclaration)) : List (String × Value) :=
  entries.map fun e => (e.1.text, e.2.toJson)

theorem decodeEntries_membersOf {entries read : List (GroupKey × ApiDeclaration)} :
    decodeEntries (membersOf entries) = .ok read ↔ List.Forall₂ ReadAs entries read := by
  induction entries generalizing read with
  | nil =>
    rw [List.forall₂_nil_left_iff, membersOf, List.map_nil, decodeEntries, Except.ok.injEq]
    exact eq_comm
  | cons e entries ih =>
    rw [List.forall₂_cons_left_iff, membersOf, List.map_cons, decodeEntries]
    simp only [ApiDeclaration.faithful.decode_toJson, ok_bind, bind_eq_ok_iff,
      GroupKey.decode_eq_ok_iff]
    constructor
    · rintro ⟨key, hkey, rest, hrest, hread⟩
      exact ⟨(key, e.2), rest, ⟨hkey, rfl⟩, ih.1 hrest, (Except.ok.inj hread).symm⟩
    · rintro ⟨⟨key, declaration⟩, rest, ⟨hkey, rfl⟩, hrest, rfl⟩
      exact ⟨key, hkey, rest, ih.2 hrest, rfl⟩

theorem ofJson_toJson (groups : Groups) :
    ofJson groups.toJson = (decodeEntries (membersOf groups.entries)).map SortedMap.ofList := by
  have hasc : Ascending (membersOf groups.entries) := List.pairwise_map.2 groups.ascending
  exact congrArg (fun members => (decodeEntries members).map SortedMap.ofList)
    (SortedMap.entries_ofList hasc)

/-- What groups are read back as: their entries read one by one, put into a map. -/
theorem ofJson_toJson_eq_ok_iff {groups others : Groups} :
    ofJson groups.toJson = .ok others
      ↔ ∃ read, List.Forall₂ ReadAs groups.entries read ∧ others = SortedMap.ofList read := by
  rw [ofJson_toJson]
  cases hread : decodeEntries (membersOf groups.entries) with
  | error issue =>
    constructor
    · intro h
      cases h
    · rintro ⟨read, hall, -⟩
      rw [decodeEntries_membersOf.2 hall] at hread
      cases hread
  | ok read =>
    have hall := decodeEntries_membersOf.1 hread
    constructor
    · intro h
      exact ⟨read, hall, (Except.ok.inj h).symm⟩
    · rintro ⟨other, hother, rfl⟩
      rw [decodeEntries_membersOf.2 hother] at hread
      rw [← Except.ok.inj hread]
      rfl

/-- What is read comes from something written. -/
theorem exists_written {written read : List (GroupKey × ApiDeclaration)}
    (hall : List.Forall₂ ReadAs written read) {y : GroupKey × ApiDeclaration} (hy : y ∈ read) :
    ∃ x ∈ written, ReadAs x y := by
  induction hall with
  | nil => cases hy
  | @cons x z written read hxz _ ih =>
    rcases List.mem_cons.1 hy with rfl | hrest
    · exact ⟨x, List.mem_cons_self, hxz⟩
    · obtain ⟨x', hx', hread⟩ := ih hrest
      exact ⟨x', List.mem_cons_of_mem x hx', hread⟩

/-- Groups are read back exactly if no key has a blank at an end. -/
theorem ofJson_toJson_eq_self_iff {groups : Groups} :
    ofJson groups.toJson = .ok groups ↔ ∀ key ∈ groups.keys, key.IsTight := by
  rw [ofJson_toJson_eq_ok_iff]
  constructor
  · rintro ⟨read, hall, hsame⟩
    -- A key that is not tight can only have been read from a longer one that is not tight either.
    have hlonger : ∀ key ∈ groups.keys, ¬ key.IsTight → ∃ other ∈ groups.keys,
        ¬ other.IsTight ∧ key.text.toList.length < other.text.toList.length := by
      intro key hkey hnot
      obtain ⟨e, he, rfl⟩ := List.mem_map.1 hkey
      rw [hsame] at he
      obtain ⟨x, hx, hparse, -⟩ := exists_written hall (SortedMap.mem_of_mem_ofList he)
      have hx_not : ¬ x.1.IsTight := by
        intro htight
        rw [GroupKey.parse_text_eq_self_iff.2 htight] at hparse
        exact hnot (Except.ok.inj hparse ▸ htight)
      exact ⟨x.1, List.mem_map_of_mem hx, hx_not, GroupKey.length_lt_of_parse_text hparse hx_not⟩
    intro key hkey
    exact not_not.1 (GroupKey.forall_not_of_longer hlonger key hkey)
  · intro htight
    refine ⟨groups.entries, ?_, (SortedMap.ofList_entries groups).symm⟩
    rw [List.forall₂_same]
    intro e he
    exact ⟨GroupKey.parse_text_eq_self_iff.2 (htight e.1 (List.mem_map_of_mem he)), rfl⟩

theorem plain_toJson (groups : Groups) : Plain groups.toJson := by
  refine Plain.object fun m hm => ?_
  obtain ⟨e, -, rfl⟩ := List.mem_map.1 hm
  exact ApiDeclaration.faithful.plain e.2

/-- Keys and groups in the forms in which they are written. A key read from a text has no slash at
an end, and between slashes it is read back. Alone it is read back exactly if it has no blank at an
end, which is to say that it is the text without the slashes and blanks at its ends. The text of any
groups stands for their JSON form, and this form for the groups exactly if no key has a blank at an
end. -/
theorem written_forms {raw : String} {key : GroupKey} (hkey : GroupKey.parse raw = .ok key) :
    Text.Bare (· == '/') key.text.toList
      ∧ GroupKey.parse ("/" ++ key.text ++ "/") = .ok key
      ∧ (GroupKey.parse key.text = .ok key ↔ Text.Bare Text.isBlank key.text.toList)
      ∧ (GroupKey.parse key.text = .ok key
        ↔ Text.trimWhile GroupKey.isEdge raw.toList = key.text.toList)
      ∧ ∀ groups : Groups,
        read? groups.toJson.toIndented = some groups.toJson
          ∧ read? groups.toJson.toCompact = some groups.toJson
          ∧ (ofJson groups.toJson = .ok groups
            ↔ ∀ key ∈ groups.keys, Text.Bare Text.isBlank key.text.toList) := by
  refine ⟨key.bare_slash, key.parse_between_slashes, GroupKey.parse_text_eq_self_iff, ?_,
    fun groups => ?_⟩
  · rw [GroupKey.parse_text_eq_self_iff, GroupKey.isTight_iff_trimWhile_isEdge hkey]
  · have hplain := plain_toJson groups
    exact ⟨read?_toIndented hplain, read?_toCompact hplain, ofJson_toJson_eq_self_iff⟩

theorem written_forms_users :
    ∃ key, GroupKey.parse " /v1/users/ " = .ok key ∧ GroupKey.parse key.text = .ok key
      ∧ GroupKey.parse ("/" ++ key.text ++ "/") = .ok key
      ∧ ofJson (toJson (SortedMap.empty.insert key default))
        = .ok (SortedMap.empty.insert key default) := by
  have hkey : GroupKey.parse " /v1/users/ " = .ok ⟨"v1/users", by decide⟩ :=
    GroupKey.parse_eq_ok_iff.2 (by decide)
  have hbare : Text.Bare Text.isBlank "v1/users".toList :=
    Text.trimWhile_eq_self_iff.1 (by decide)
  obtain ⟨-, hslashes, halone, -, hgroups⟩ := written_forms hkey
  refine ⟨_, hkey, halone.2 hbare, hslashes, (hgroups _).2.2.mpr fun key hmem => ?_⟩
  rw [List.mem_singleton.1 hmem]
  exact hbare

/-- The slash of `a /` hides a blank, which ends up in the key. Alone this key stands for `a`, and a
group with it is not read back. -/
theorem blank_in_front_of_slash :
    ∃ key, GroupKey.parse "a /" = .ok key ∧ key.text = "a "
      ∧ (GroupKey.parse key.text).map GroupKey.text = .ok "a"
      ∧ ofJson (toJson (SortedMap.empty.insert key default))
        ≠ .ok (SortedMap.empty.insert key default) := by
  have hkey : GroupKey.parse "a /" = .ok ⟨"a ", by decide⟩ :=
    GroupKey.parse_eq_ok_iff.2 (by decide)
  have hother : GroupKey.parse "a " = .ok ⟨"a", by decide⟩ :=
    GroupKey.parse_eq_ok_iff.2 (by decide)
  refine ⟨_, hkey, rfl, ?_, ?_⟩
  · rw [hother]
    rfl
  · intro hsame
    have htight := ofJson_toJson_eq_self_iff.1 hsame _ List.mem_cons_self
    rw [← GroupKey.parse_text_eq_self_iff, hother] at htight
    have hne : "a" ≠ "a " := by decide
    exact hne (congrArg GroupKey.text (Except.ok.inj htight))

end Groups

end ApiDocs
