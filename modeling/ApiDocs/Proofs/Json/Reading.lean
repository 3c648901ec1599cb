import ApiDocs.Proofs.Json.Text

/-!
# Values are read back

A value without signed or broken numerals (`Plain`) is read back from its text in any layout,
whatever follows that does not go on with a numeral (`Layout.readsBack`). Arrays and objects
are read item by item, so each case is an induction along the list, given that the parts are read
back. For whole texts this gives `read?_toIndented` and `read?_toCompact`.
-/

set_option autoImplicit false

namespace ApiDocs.Json

open Text (Stops stops_cons stops_nil)

/-- A value whose numerals are all natural numbers. -/
inductive Plain : Value → Prop
  | null : Plain .null
  | bool (b : Bool) : Plain (.bool b)
  | natural (n : Nat) : Plain (.natural n)
  | string (s : String) : Plain (.string s)
  | array {items : List Value} (h : ∀ item ∈ items, Plain item) : Plain (.array items)
  | object {members : List (String × Value)} (h : ∀ m ∈ members, Plain m.2) :
    Plain (.object members)

theorem toList_toString (n : Nat) : (toString n).toList = Nat.toDigits 10 n :=
  Nat.toList_repr

theorem skipSpace_append {gap rest : List Char} (hgap : ∀ c ∈ gap, isSpace c = true)
    (hrest : Stops isSpace rest) : skipSpace (gap ++ rest) = rest :=
  Text.dropWhile_run_append hgap hrest

theorem continuesNumeral_of_isSpace {c : Char} (h : isSpace c = true) :
    continuesNumeral c = false := by
  simp only [isSpace, Bool.or_eq_true, beq_iff_eq] at h
  rcases h with ((rfl | rfl) | rfl) | rfl
  all_goals decide

/-- Blanks in front of something that does not go on with a numeral. -/
theorem delimited_append {gap rest : List Char} (hgap : ∀ c ∈ gap, isSpace c = true)
    (hrest : Delimited rest) : Delimited (gap ++ rest) := by
  cases gap with
  | nil => exact hrest
  | cons c gap =>
    exact stops_cons.2 (continuesNumeral_of_isSpace (hgap c List.mem_cons_self))

namespace Layout

variable {l : Layout} {depth : Nat}

/-- The text of a value starts with a character that is neither a blank nor a closing bracket. -/
theorem exists_text_eq_cons {v : Value} (hv : Plain v) (l : Layout) (depth : Nat) :
    ∃ c s, l.text depth v = c :: s ∧ isSpace c = false ∧ c ≠ ']' := by
  cases hv with
  | null => exact ⟨'n', _, rfl, by decide, by decide⟩
  | bool b =>
    cases b with
    | true => exact ⟨'t', _, rfl, by decide, by decide⟩
    | false => exact ⟨'f', _, rfl, by decide, by decide⟩
  | natural n =>
    have htext : l.text depth (.natural n) = Nat.toDigits 10 n := toList_toString n
    cases hdigits : Nat.toDigits 10 n with
    | nil => exact absurd hdigits Nat.toDigits_ne_nil
    | cons c s =>
      have hc : isAsciiDigit c = true :=
        isAsciiDigit_of_mem_toDigits (hdigits ▸ List.mem_cons_self)
      refine ⟨c, s, htext.trans hdigits, ?_, ?_⟩
      · cases hspace : isSpace c with
        | false => rfl
        | true =>
          have hnot := continuesNumeral_of_isSpace hspace
          simp [continuesNumeral, hc] at hnot
      · rintro rfl
        exact absurd hc (by decide)
  | string s => exact ⟨'"', _, rfl, by decide, by decide⟩
  | @array items =>
    cases items with
    | nil => exact ⟨'[', _, rfl, by decide, by decide⟩
    | cons => exact ⟨'[', _, rfl, by decide, by decide⟩
  | @object members =>
    cases members with
    | nil => exact ⟨'\x7b', _, rfl, by decide, by decide⟩
    | cons => exact ⟨'\x7b', _, rfl, by decide, by decide⟩

/-- A value is read back from its text at every depth, if the bound on nested calls is at least the
length of the text. -/
def ReadsBack (l : Layout) (v : Value) : Prop :=
  ∀ depth n rest, (l.text depth v).length ≤ n → Delimited rest →
    readValue n (l.text depth v ++ rest) = some (v, rest)

theorem skipSpace_gap_text {v : Value} (hv : Plain v) {gap : List Char}
    (hgap : ∀ c ∈ gap, isSpace c = true) (rest : List Char) :
    skipSpace (gap ++ (l.text depth v ++ rest)) = l.text depth v ++ rest := by
  obtain ⟨c, s, htext, hc, -⟩ := exists_text_eq_cons hv l depth
  apply skipSpace_append hgap
  rw [htext]
  exact stops_cons.2 hc

theorem length_text_pos {v : Value} (hv : Plain v) : 0 < (l.text depth v).length := by
  obtain ⟨c, s, htext, -⟩ := exists_text_eq_cons hv l depth
  rw [htext]
  exact Nat.succ_pos _

/-! ## Items -/

theorem delimited_itemsText (l : Layout) (depth : Nat) (items : List Value) {gap : List Char}
    (hgap : ∀ c ∈ gap, isSpace c = true) (rest : List Char) :
    Delimited (l.itemsText depth items ++ (gap ++ ']' :: rest)) := by
  cases items with
  | nil =>
    rw [itemsText, List.nil_append]
    exact delimited_append hgap (stops_cons.2 (by decide))
  | cons item items =>
    rw [itemsText]
    exact stops_cons.2 (by decide)

/-- The items of an array are read back up to the closing bracket. -/
theorem readItems_text {items : List Value} {item : Value}
    (hplain : ∀ v ∈ item :: items, Plain v) (hreads : ∀ v ∈ item :: items, l.ReadsBack v)
    {gap : List Char} (hgap : ∀ c ∈ gap, isSpace c = true) (rest : List Char) {n : Nat}
    (hn : (l.text depth item ++ l.itemsText depth items).length < n) :
    readItems n (l.text depth item ++ (l.itemsText depth items ++ (gap ++ ']' :: rest)))
      = some (item :: items, rest) := by
  induction items generalizing item n with
  | nil =>
    cases n with
    | zero => exact absurd hn (Nat.not_lt_zero _)
    | succ n =>
      rw [List.length_append] at hn
      have hitem := hreads item List.mem_cons_self depth n _ (by omega)
        (delimited_itemsText l depth [] hgap rest)
      rw [readItems, hitem]
      have hclose : skipSpace (l.itemsText depth [] ++ (gap ++ ']' :: rest)) = ']' :: rest :=
        skipSpace_append hgap (stops_cons.2 (by decide))
      simp only [hclose]
  | cons next items ih =>
    cases n with
    | zero => exact absurd hn (Nat.not_lt_zero _)
    | succ n =>
      have hnext : Plain next := hplain next (by simp)
      have hpos : 0 < (l.text depth item).length := length_text_pos (hplain item (by simp))
      have hlen : (l.itemsText depth (next :: items)).length
          = 1 + (l.gap depth).length + (l.text depth next ++ l.itemsText depth items).length := by
        rw [itemsText]
        simp only [List.length_append, List.length_cons]
        omega
      rw [List.length_append] at hn
      have hitem := hreads item List.mem_cons_self depth n _ (by omega)
        (delimited_itemsText l depth (next :: items) hgap rest)
      have hcomma : skipSpace (l.itemsText depth (next :: items) ++ (gap ++ ']' :: rest))
          = ',' :: (l.gap depth
            ++ (l.text depth next ++ (l.itemsText depth items ++ (gap ++ ']' :: rest)))) := by
        rw [itemsText]
        simp only [List.append_assoc, List.cons_append]
        exact Text.dropWhile_of_stops (stops_cons.2 (by decide))
      have htail := ih (fun v hv => hplain v (List.mem_cons_of_mem item hv))
        (fun v hv => hreads v (List.mem_cons_of_mem item hv)) (n := n) (by omega)
      rw [readItems, hitem]
      simp only [hcomma, skipSpace_gap_text hnext (l.isSpace_gap depth), htail, Option.map_some]

/-! ## Members -/

theorem quoted_append (name rest : List Char) :
    quoted name ++ rest = '"' :: (name.flatMap escapeChar ++ '"' :: rest) := by
  simp [quoted]

theorem delimited_membersText (l : Layout) (depth : Nat) (members : List (String × Value))
    {gap : List Char} (hgap : ∀ c ∈ gap, isSpace c = true) (rest : List Char) :
    Delimited (l.membersText depth members ++ (gap ++ '\x7d' :: rest)) := by
  cases members with
  | nil =>
    rw [membersText, List.nil_append]
    exact delimited_append hgap (stops_cons.2 (by decide))
  | cons m members =>
    rw [membersText]
    exact stops_cons.2 (by decide)

theorem skipSpace_gap_quoted {gap : List Char} (hgap : ∀ c ∈ gap, isSpace c = true)
    (name rest : List Char) : skipSpace (gap ++ (quoted name ++ rest)) = quoted name ++ rest := by
  apply skipSpace_append hgap
  rw [quoted_append]
  exact stops_cons.2 (by decide)

theorem skipSpace_colon (rest : List Char) : skipSpace (':' :: rest) = ':' :: rest :=
  Text.dropWhile_of_stops (stops_cons.2 (by decide))

/-- A member in front of the closing brace. -/
theorem readMembers_last {name : String} {value : Value} (hv : Plain value)
    (hreads : l.ReadsBack value) {rest after : List Char} (hrest : Delimited rest)
    (hclose : skipSpace rest = '\x7d' :: after) {n : Nat} (hn : (l.text depth value).length ≤ n) :
    readMembers (n + 1)
        (quoted name.toList ++ ':' :: (l.colonGap ++ (l.text depth value ++ rest)))
      = some ([(name, value)], after) := by
  rw [quoted_append, readMembers, readQuoted_escaped]
  simp only [skipSpace_colon, skipSpace_gap_text hv l.isSpace_colonGap,
    hreads depth n rest hn hrest, hclose, String.ofList_toList]

/-- A member in front of another one. -/
theorem readMembers_next {name : String} {value : Value} (hv : Plain value)
    (hreads : l.ReadsBack value) {rest after : List Char} (hrest : Delimited rest)
    (hcomma : skipSpace rest = ',' :: after) {n : Nat} (hn : (l.text depth value).length ≤ n) :
    readMembers (n + 1)
        (quoted name.toList ++ ':' :: (l.colonGap ++ (l.text depth value ++ rest)))
      = (readMembers n (skipSpace after)).map fun r => ((name, value) :: r.1, r.2) := by
  rw [quoted_append, readMembers, readQuoted_escaped]
  simp only [skipSpace_colon, skipSpace_gap_text hv l.isSpace_colonGap,
    hreads depth n rest hn hrest, hcomma, String.ofList_toList]

/-- The members of an object are read back up to the closing brace. -/
theorem readMembers_text {members : List (String × Value)} {name : String} {value : Value}
    (hplain : ∀ m ∈ (name, value) :: members, Plain m.2)
    (hreads : ∀ m ∈ (name, value) :: members, l.ReadsBack m.2)
    {gap : List Char} (hgap : ∀ c ∈ gap, isSpace c = true) (rest : List Char) {n : Nat}
    (hn : (l.text depth value ++ l.membersText depth members).length < n) :
    readMembers n (quoted name.toList ++ ':' :: (l.colonGap ++ (l.text depth value
        ++ (l.membersText depth members ++ (gap ++ '\x7d' :: rest)))))
      = some ((name, value) :: members, rest) := by
  have hvalue : Plain value := hplain (name, value) List.mem_cons_self
  have hvalueReads : l.ReadsBack value := hreads (name, value) List.mem_cons_self
  induction members generalizing name value n with
  | nil =>
    cases n with
    | zero => exact absurd hn (Nat.not_lt_zero _)
    | succ n =>
      rw [List.length_append] at hn
      have hclose : skipSpace (l.membersText depth [] ++ (gap ++ '\x7d' :: rest))
          = '\x7d' :: rest :=
        skipSpace_append hgap (stops_cons.2 (by decide))
      exact readMembers_last hvalue hvalueReads (delimited_membersText l depth [] hgap rest) hclose
        (by omega)
  | cons m members ih =>
    obtain ⟨next, nextValue⟩ := m
    cases n with
    | zero => exact absurd hn (Nat.not_lt_zero _)
    | succ n =>
      have hpos : 0 < (l.text depth value).length := length_text_pos hvalue
      have hlen : (l.text depth nextValue ++ l.membersText depth members).length
          < (l.membersText depth ((next, nextValue) :: members)).length := by
        rw [membersText]
        simp only [List.length_append, List.length_cons]
        omega
      rw [List.length_append] at hn
      have hcomma : skipSpace
          (l.membersText depth ((next, nextValue) :: members) ++ (gap ++ '\x7d' :: rest))
          = ',' :: (l.gap depth ++ (quoted next.toList ++ ':' :: (l.colonGap
            ++ (l.text depth nextValue
              ++ (l.membersText depth members ++ (gap ++ '\x7d' :: rest)))))) := by
        rw [membersText]
        simp only [List.append_assoc, List.cons_append]
        exact Text.dropWhile_of_stops (stops_cons.2 (by decide))
      have hplainRest : ∀ m ∈ (next, nextValue) :: members, Plain m.2 := fun m hm =>
        hplain m (List.mem_cons_of_mem _ hm)
      have hreadsRest : ∀ m ∈ (next, nextValue) :: members, l.ReadsBack m.2 := fun m hm =>
        hreads m (List.mem_cons_of_mem _ hm)
      have htail := ih hplainRest hreadsRest (n := n) (by omega)
        (hplainRest _ List.mem_cons_self) (hreadsRest _ List.mem_cons_self)
      rw [readMembers_next hvalue hvalueReads
        (delimited_membersText l depth ((next, nextValue) :: members) hgap rest) hcomma (by omega),
        skipSpace_gap_quoted (l.isSpace_gap depth), htail]
      rfl

/-! ## Values -/

theorem readValue_quote (n : Nat) (rest : List Char) :
    readValue (n + 1) ('"' :: rest)
      = (readQuoted rest).map fun r => (.string (String.ofList r.1), r.2) :=
  rfl

theorem readValue_bracket (n : Nat) (rest : List Char) :
    readValue (n + 1) ('[' :: rest)
      = match skipSpace rest with
        | ']' :: rest => some (.array [], rest)
        | rest => (readItems n rest).map fun r => (.array r.1, r.2) :=
  rfl

theorem readValue_brace (n : Nat) (rest : List Char) :
    readValue (n + 1) ('\x7b' :: rest)
      = match skipSpace rest with
        | '\x7d' :: rest => some (.object [], rest)
        | rest => (readMembers n rest).map fun r => (.object r.1, r.2) :=
  rfl

/-- No text is empty, so the bound on nested calls allows at least one. -/
theorem readsBack_of_succ {v : Value} (hv : Plain v)
    (h : ∀ depth n rest, (l.text depth v).length ≤ n + 1 → Delimited rest →
      readValue (n + 1) (l.text depth v ++ rest) = some (v, rest)) : l.ReadsBack v := by
  intro depth fuel rest hfuel hrest
  have hpos : 0 < (l.text depth v).length := length_text_pos hv
  obtain ⟨n, rfl⟩ : ∃ n, fuel = n + 1 := Nat.exists_eq_succ_of_ne_zero (by omega)
  exact h depth n rest hfuel hrest

theorem readsBack_natural (l : Layout) (n : Nat) : l.ReadsBack (.natural n) := by
  refine readsBack_of_succ (.natural n) fun depth fuel rest _ hrest => ?_
  have htext : l.text depth (.natural n) = Nat.toDigits 10 n := toList_toString n
  rw [htext]
  cases hdigits : Nat.toDigits 10 n with
  | nil => exact absurd hdigits Nat.toDigits_ne_nil
  | cons c s =>
    have hc : isAsciiDigit c = true :=
      isAsciiDigit_of_mem_toDigits (hdigits ▸ List.mem_cons_self)
    have hnot : ∀ d, isAsciiDigit d = false → c ≠ d := by
      rintro d hd rfl
      exact absurd hc (by simp [hd])
    have hliteral : ¬ (c = 'n' ∨ c = 't' ∨ c = 'f') := by
      simp [hnot 'n' (by decide), hnot 't' (by decide), hnot 'f' (by decide)]
    rw [List.cons_append, readValue.eq_6, if_neg hliteral, ← List.cons_append, ← hdigits]
    · exact readNumeral_toDigits n hrest
    · exact hnot '"' (by decide)
    · exact hnot '[' (by decide)
    · exact hnot '\x7b' (by decide)

theorem readsBack_string (l : Layout) (s : String) : l.ReadsBack (.string s) := by
  refine readsBack_of_succ (.string s) fun depth fuel rest _ _ => ?_
  rw [text, quoted_append, readValue_quote, readQuoted_escaped]
  simp only [Option.map_some, String.ofList_toList]

/-- An array is read back if its items are. -/
theorem readsBack_array {items : List Value} (hplain : ∀ v ∈ items, Plain v)
    (hreads : ∀ v ∈ items, l.ReadsBack v) : l.ReadsBack (.array items) := by
  refine readsBack_of_succ (.array hplain) fun depth fuel rest hfuel _ => ?_
  cases items with
  | nil => rfl
  | cons item items =>
    have hitem : Plain item := hplain item List.mem_cons_self
    obtain ⟨c, s, htext, -, hclose⟩ := exists_text_eq_cons hitem l (depth + 1)
    have hlen : (l.text (depth + 1) item ++ l.itemsText (depth + 1) items).length < fuel := by
      rw [text] at hfuel
      simp only [List.length_append, List.length_cons, List.length_nil] at hfuel ⊢
      omega
    have hitems := readItems_text hplain hreads (l.isSpace_gap depth) rest hlen
    rw [text]
    simp only [List.cons_append, List.append_assoc, List.nil_append]
    rw [readValue_bracket, skipSpace_gap_text hitem (l.isSpace_gap (depth + 1))]
    split
    · next h =>
      rw [htext] at h
      exact absurd (List.cons.inj h).1 hclose
    · rw [hitems]
      rfl

/-- An object is read back if the values of its members are. -/
theorem readsBack_object {members : List (String × Value)} (hplain : ∀ m ∈ members, Plain m.2)
    (hreads : ∀ m ∈ members, l.ReadsBack m.2) : l.ReadsBack (.object members) := by
  refine readsBack_of_succ (.object hplain) fun depth fuel rest hfuel _ => ?_
  cases members with
  | nil => rfl
  | cons m members =>
    obtain ⟨name, value⟩ := m
    have hlen : (l.text (depth + 1) value ++ l.membersText (depth + 1) members).length
        < fuel := by
      rw [text] at hfuel
      simp only [List.length_append, List.length_cons, List.length_nil] at hfuel ⊢
      omega
    have hmembers := readMembers_text hplain hreads (l.isSpace_gap depth) rest hlen
    rw [text]
    simp only [List.cons_append, List.append_assoc, List.nil_append]
    rw [readValue_brace, skipSpace_gap_quoted (l.isSpace_gap (depth + 1))]
    split
    · next h =>
      rw [quoted_append] at h
      exact absurd (List.cons.inj h).1 (by decide)
    · rw [hmembers]
      rfl

/-- A plain value is read back in every layout. -/
theorem readsBack (l : Layout) {v : Value} (hv : Plain v) : l.ReadsBack v := by
  induction hv with
  | null => exact readsBack_of_succ .null fun _ _ _ _ _ => rfl
  | bool b =>
    refine readsBack_of_succ (.bool b) fun depth fuel rest _ _ => ?_
    cases b with
    | true => rfl
    | false => rfl
  | natural n => exact readsBack_natural l n
  | string s => exact readsBack_string l s
  | array hplain ih => exact readsBack_array hplain ih
  | object hplain ih => exact readsBack_object hplain ih

/-- The text of a plain value stands for that value, in every layout. -/
theorem read?_text (l : Layout) {v : Value} (hv : Plain v) :
    read? (String.ofList (l.text 0 v)) = some v := by
  have hstart : skipSpace (l.text 0 v) = l.text 0 v := by
    have h : skipSpace ([] ++ (l.text 0 v ++ [])) = l.text 0 v ++ [] :=
      skipSpace_gap_text hv (fun _ hc => absurd hc List.not_mem_nil) []
    rwa [List.nil_append, List.append_nil] at h
  have hvalue := readsBack l hv 0 ((l.text 0 v).length + 1) [] (Nat.le_succ _) (stops_nil _)
  rw [List.append_nil] at hvalue
  unfold read?
  simp only [String.toList_ofList, hstart, hvalue]
  rfl

end Layout

/-- The indented text of a plain value stands for that value. -/
theorem read?_toIndented {v : Value} (hv : Plain v) : read? v.toIndented = some v := by
  rw [Value.toIndented, ← Layout.text_wide]
  exact Layout.read?_text .wide hv

/-- The compact text of a plain value stands for that value. -/
theorem read?_toCompact {v : Value} (hv : Plain v) : read? v.toCompact = some v := by
  rw [Value.toCompact, ← Layout.text_tight 0]
  exact Layout.read?_text .tight hv

end ApiDocs.Json
