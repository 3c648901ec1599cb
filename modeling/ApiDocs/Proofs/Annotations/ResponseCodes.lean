import ApiDocs.Proofs.Annotations.TaggedLines

/-!
# Codes of answers

Which number an answer is recorded under. The reader takes three decimal digits off the start of the
value and goes on with whatever is behind them. So a code is always the number that the first three
digits denote, and these are ASCII digits; but the run of digits may go on, and then its rest is
taken for the start of the message (`Response.read?_longRun`). Any other value that does not start
with exactly three digits is refused with a warning (`recorded_codes`).
-/

set_option autoImplicit false

namespace ApiDocs.Annotations

open Text (Stops isBlank isDigit stops_cons)

variable {a b c d : Char} {rest value : List Char} {code : UInt16} {isSuccess : Bool} {r : Response}

/-! ## Three digits -/

/-- Three ASCII digits and the number that they denote. -/
structure IsCode (digits : List Char) (code : UInt16) : Prop where
  length_eq : digits.length = 3
  isDigit : ∀ d ∈ digits, d.isDigit = true
  denotes : Nat.ofDigitChars 10 digits 0 = code.toNat

theorem isAsciiDigit_iff : c.isDigit = true ↔ '0' ≤ c ∧ c ≤ '9' := by
  simp [Char.isDigit, Char.le_def]

theorem toNat_le_of_isAsciiDigit (h : c.isDigit = true) : c.toNat ≤ 57 :=
  UInt32.le_iff_toNat_le.1 (Char.le_def.1 (isAsciiDigit_iff.1 h).2)

theorem areAsciiDigits_iff : (∀ d ∈ [a, b, c], d.isDigit = true)
    ↔ '0' ≤ a ∧ a ≤ '9' ∧ '0' ≤ b ∧ b ≤ '9' ∧ '0' ≤ c ∧ c ≤ '9' := by
  simp [isAsciiDigit_iff, and_assoc]

theorem codeOfDigits?_eq_some_iff : codeOfDigits? a b c = some code ↔ IsCode [a, b, c] code := by
  have hvalue : Nat.ofDigitChars 10 [a, b, c] 0
      = (a.toNat - 48) * 100 + (b.toNat - 48) * 10 + (c.toNat - 48) := by
    simp only [Nat.ofDigitChars_cons, Nat.ofDigitChars_nil]
    change 10 * (10 * (10 * 0 + (a.toNat - 48)) + (b.toNat - 48)) + (c.toNat - 48) = _
    omega
  unfold codeOfDigits?
  split
  · next h =>
    have hall := areAsciiDigits_iff.2 h
    have ha := toNat_le_of_isAsciiDigit (hall a (by simp))
    have hb := toNat_le_of_isAsciiDigit (hall b (by simp))
    have hc := toNat_le_of_isAsciiDigit (hall c (by simp))
    have hsmall : Nat.ofDigitChars 10 [a, b, c] 0 < 2 ^ 16 := by
      rw [hvalue]
      omega
    rw [← hvalue]
    constructor
    · intro hcode
      cases hcode
      exact ⟨rfl, hall, (UInt16.toNat_ofNat_of_lt' hsmall).symm⟩
    · intro hcode
      rw [hcode.denotes, UInt16.ofNat_toNat]
  · next h =>
    constructor
    · intro hcode
      cases hcode
    · intro hcode
      exact absurd (areAsciiDigits_iff.1 hcode.isDigit) h

/-! ## The reader of answers -/

/-- The digits that a value starts with. -/
def digitRun (value : List Char) : List Char :=
  value.takeWhile isDigit

namespace Response

/-- Whatever the message and the type, the code is the number of the three digits. -/
theorem code_eq_of_message {shape : ResponseShape} {type : Option String} {message : List Char}
    (h : (if '\n' ∈ message then none
      else (codeOfDigits? a b c).map fun code =>
        { code, isSuccess, shape, type, message := messageText message }) = some r) :
    codeOfDigits? a b c = some r.code ∧ r.isSuccess = isSuccess := by
  split at h
  · cases h
  · obtain ⟨code, hcode, rfl⟩ := Option.map_eq_some_iff.1 h
    exact ⟨hcode, rfl⟩

/-- Whatever is accepted starts with three digits that denote its code. -/
theorem isCode_of_read? (h : read? value isSuccess = some r) :
    IsCode ((digitRun value).take 3) r.code ∧ r.isSuccess = isSuccess := by
  unfold read? at h
  split at h
  · next a b c rest =>
    split at h
    · next hdigits =>
      simp only [Bool.and_eq_true] at hdigits
      obtain ⟨⟨ha, hb⟩, hc⟩ := hdigits
      have hrun : (digitRun (a :: b :: c :: rest)).take 3 = [a, b, c] := by
        simp [digitRun, ha, hb, hc]
      have hcode : codeOfDigits? a b c = some r.code ∧ r.isSuccess = isSuccess := by
        cases htype : takeType? (rest.dropWhile isBlank) with
        | none =>
          simp only [htype] at h
          exact code_eq_of_message h
        | some found =>
          obtain ⟨word, type, behind⟩ := found
          simp only [htype] at h
          exact code_eq_of_message h
      rw [hrun]
      exact ⟨codeOfDigits?_eq_some_iff.1 hcode.1, hcode.2⟩
    · cases h
  · cases h

/-- A fourth digit ends the code all the same. It and all that is behind it are the message. -/
theorem read?_longRun (ha : isDigit a = true) (hb : isDigit b = true) (hc : isDigit c = true)
    (hd : isDigit d = true) (rest : List Char) (isSuccess : Bool) :
    read? (a :: b :: c :: d :: rest) isSuccess
      = if '\n' ∈ d :: rest then none
        else (codeOfDigits? a b c).map fun code =>
          { code, isSuccess, shape := .object, type := none,
            message := messageText (d :: rest) } := by
  have hblank : (d :: rest).dropWhile isBlank = d :: rest :=
    Text.dropWhile_of_stops (stops_cons.2 (Text.isBlank_of_isDigit hd))
  have htype : takeType? (d :: rest) = none := by
    have hbrace : d ≠ '{' := fun h => absurd (h ▸ hd) (by decide)
    simp [takeType?, List.isPrefixOf?, hbrace.symm]
  unfold read?
  simp only [ha, hb, hc, Bool.and_self, if_true, hblank, htype]

/-- More than three digits are at the start of a value that has four. -/
theorem exists_of_longRun (h : 3 < (digitRun value).length) :
    ∃ a b c d rest, value = a :: b :: c :: d :: rest ∧ isDigit a = true ∧ isDigit b = true ∧
      isDigit c = true ∧ isDigit d = true := by
  obtain ⟨rest, hrest⟩ := List.takeWhile_prefix (l := value) isDigit
  have hdigit : ∀ x ∈ digitRun value, isDigit x = true := fun _ => List.mem_takeWhile_imp
  match hrun : digitRun value, h with
  | a :: b :: c :: d :: more, _ =>
    rw [hrun] at hdigit
    refine ⟨a, b, c, d, more ++ rest, ?_, hdigit a (by simp), hdigit b (by simp),
      hdigit c (by simp), hdigit d (by simp)⟩
    rw [← hrest]
    exact congrArg (· ++ rest) hrun

/-- A value that does not start with exactly three digits is accepted if and only if it starts with
more of them, the first three are ASCII digits, and there is no line break in it. -/
theorem read?_ne_none_iff (h : (digitRun value).length ≠ 3) :
    read? value isSuccess ≠ none
      ↔ 3 < (digitRun value).length ∧ (∃ code, IsCode ((digitRun value).take 3) code) ∧
          '\n' ∉ value := by
  by_cases hlong : 3 < (digitRun value).length
  · obtain ⟨a, b, c, d, rest, rfl, ha, hb, hc, hd⟩ := exists_of_longRun hlong
    have hrun : (digitRun (a :: b :: c :: d :: rest)).take 3 = [a, b, c] := by
      simp [digitRun, ha, hb, hc, hd]
    have hnot : ∀ {x}, isDigit x = true → '\n' ≠ x := fun hx hnewline =>
      absurd (hnewline ▸ hx) (by decide)
    have hnewline : '\n' ∈ a :: b :: c :: d :: rest ↔ '\n' ∈ d :: rest := by
      simp [hnot ha, hnot hb, hnot hc]
    rw [read?_longRun ha hb hc hd, hrun, hnewline]
    by_cases hbreak : '\n' ∈ d :: rest
    · rw [if_pos hbreak]
      exact iff_of_false (fun hne => hne rfl) fun hright => hright.2.2 hbreak
    · rw [if_neg hbreak, ne_eq, Option.map_eq_none_iff, Option.eq_none_iff_forall_ne_some]
      simp only [codeOfDigits?_eq_some_iff, not_forall, not_not, hlong, hbreak, not_false_eq_true,
        true_and, and_true]
  · refine iff_of_false (fun hne => ?_) fun hright => hlong hright.1
    obtain ⟨r, hr⟩ := Option.ne_none_iff_exists'.1 hne
    have hlength := (isCode_of_read? hr).1.length_eq
    rw [List.length_take] at hlength
    omega

end Response

open Handler (Accepts Refuses ofDoc)

/-- An answer is recorded behind those of the lines above, under the number that the first three
digits of its value denote, or it is refused with a warning and the answers stay as they are. What
does not start with exactly three digits should be refused. It is, with one exception: a longer run
of digits that starts with three ASCII digits, in a value of one line. -/
theorem recorded_codes (earlier : List String) {tag line : String} {value : List Char}
    (htag : tag = "success" ∨ tag = "failure") (hline : Bears tag value line) :
    let warning := Notice.malformedResponse tag (String.ofList value)
    (Refuses earlier line warning ∨
      ∃ r : Response, r.isSuccess = decide (tag = "success") ∧
        IsCode ((digitRun value).take 3) r.code ∧
        Accepts earlier line
          { ofDoc earlier with responses := (ofDoc earlier).responses ++ [r] }) ∧
    ((digitRun value).length ≠ 3 →
      (¬ Refuses earlier line warning ↔ 3 < (digitRun value).length ∧
        (∃ code, IsCode ((digitRun value).take 3) code) ∧ '\n' ∉ value)) := by
  intro warning
  have hread := HandlerLine.read_response (Tagged.ofLine?_eq_some_iff.2 hline) htag
  have hrefuses := Handler.refuses_iff hread (fun _ => rfl) rfl earlier
  constructor
  · cases hfound : Response.read? value (decide (tag = "success")) with
    | none => exact Or.inl (hrefuses.2 hfound)
    | some r =>
      obtain ⟨hcode, hsuccess⟩ := Response.isCode_of_read? hfound
      rw [hfound] at hread
      exact Or.inr ⟨r, hsuccess, hcode, Handler.accepts_of_read hread rfl earlier⟩
  · intro hlength
    rw [hrefuses]
    exact Response.read?_ne_none_iff hlength

/-- Three digits are recorded behind the answer of the line above, and two digits are refused. -/
theorem recorded_codes_notFound :
    let above := ["@Success 200 ok"]
    Bears "failure" "404 gone".toList "@Failure 404 gone" ∧
      (∃ r : Response, r.isSuccess = false ∧ IsCode "404".toList r.code ∧
        Accepts above "@Failure 404 gone"
          { ofDoc above with responses := (ofDoc above).responses ++ [r] }) ∧
      Bears "failure" "40 gone".toList "@Failure 40 gone" ∧
      (digitRun "40 gone".toList).length ≠ 3 ∧
      Refuses above "@Failure 40 gone" (.malformedResponse "failure" "40 gone") := by
  intro above
  have hthree : Bears "failure" "404 gone".toList "@Failure 404 gone" :=
    Tagged.ofLine?_eq_some_iff.1 (by decide)
  have htwo : Bears "failure" "40 gone".toList "@Failure 40 gone" :=
    Tagged.ofLine?_eq_some_iff.1 (by decide)
  have hlength : (digitRun "40 gone".toList).length ≠ 3 := by decide
  refine ⟨hthree, ?_, htwo, hlength, ?_⟩
  · rcases (recorded_codes above (Or.inr rfl) hthree).1 with hrefuses | hr
    · exact absurd hrefuses.notices_eq (by decide)
    · exact hr
  · have hiff := (recorded_codes above (Or.inr rfl) htwo).2 hlength
    by_contra hnot
    exact absurd (hiff.1 hnot).1 (by decide)

/-- Of four digits the first three are recorded, and the fourth is in the message. -/
theorem fourth_digit_in_message :
    let line := "@Success 2000 ok"
    Bears "success" "2000 ok".toList line ∧ digitRun "2000 ok".toList = "2000".toList ∧
      (ofDoc [line]).responses = [⟨200, true, .object, none, "0 ok"⟩] ∧
      Handler.notices [line] = [] := by
  intro line
  exact ⟨Tagged.ofLine?_eq_some_iff.1 (by decide), by decide, by decide, by decide⟩

end ApiDocs.Annotations
