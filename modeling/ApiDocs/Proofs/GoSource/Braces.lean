import ApiDocs.GoSource.Fields

/-!
# Braces of a line of code

What is left of a line when its comment, its tags and its empty pairs of braces are taken out. A
comment is found behind code and tags whatever the tags hold (`withoutComment_append`,
`withoutComment_tag`), tags leave nothing (`withoutTags_tag`), and code whose braces only occur as
empty pairs opens and closes no block (`braceCounts_of_isPaired`). Empty pairs are taken out of
texts one by one (`withoutEmptyPairs_append`), and with them as many opening as closing braces
(`count_withoutEmptyPairs`).
-/

set_option autoImplicit false

namespace ApiDocs.GoSource

/-! ## Comments -/

@[simp]
theorem withoutComment_nil (inTag : Bool) : withoutComment inTag [] = [] :=
  rfl

theorem withoutComment_cons (inTag : Bool) (c : Char) (rest : List Char) :
    withoutComment inTag (c :: rest)
      = if c = backQuote then c :: withoutComment (!inTag) rest
        else if inTag = false ∧ c = '/' ∧ rest.head? = some '/' then []
        else c :: withoutComment inTag rest :=
  rfl

/-- Code without a back-quote and without two slashes in a row is no part of a comment, unless it
ends in a slash and a slash follows. -/
theorem withoutComment_append {code rest : List Char} (hquote : backQuote ∉ code)
    (hslash : ¬ ['/', '/'] <:+: code)
    (hrest : code.getLast? = some '/' → rest.head? ≠ some '/') :
    withoutComment false (code ++ rest) = code ++ withoutComment false rest := by
  induction code with
  | nil => rfl
  | cons c code ih =>
    have hc : c ≠ backQuote := fun e => hquote (by simp [e])
    have hquote' : backQuote ∉ code := fun h => hquote (List.mem_cons_of_mem c h)
    have hslash' : ¬ ['/', '/'] <:+: code :=
      fun h => hslash (h.trans (List.suffix_cons c code).isInfix)
    have hrest' : code.getLast? = some '/' → rest.head? ≠ some '/' := by
      intro hlast
      apply hrest
      rw [List.getLast?_cons, hlast]
      rfl
    -- Two slashes could only meet inside the code or where it ends.
    have hstart : ¬ (c = '/' ∧ (code ++ rest).head? = some '/') := by
      rintro ⟨rfl, hhead⟩
      cases code with
      | nil => exact hrest rfl hhead
      | cons d code =>
        have hd : d = '/' := by simpa using hhead
        subst hd
        exact hslash ⟨[], code, rfl⟩
    rw [List.cons_append, withoutComment_cons, if_neg hc, if_neg (by simpa using hstart),
      ih hquote' hslash' hrest']
    rfl

theorem withoutComment_append_of_not_mem {code : List Char} (hquote : backQuote ∉ code)
    (hslash : '/' ∉ code) (rest : List Char) :
    withoutComment false (code ++ rest) = code ++ withoutComment false rest :=
  withoutComment_append hquote (fun h => hslash (h.subset List.mem_cons_self))
    fun h => absurd (List.mem_of_getLast? h) hslash

/-- Nothing in a tag starts a comment. -/
theorem withoutComment_tag {tag : List Char} (htag : backQuote ∉ tag) (rest : List Char) :
    withoutComment false (backQuote :: tag ++ backQuote :: rest)
      = backQuote :: tag ++ backQuote :: withoutComment false rest := by
  have inside : withoutComment true (tag ++ backQuote :: rest)
      = tag ++ backQuote :: withoutComment false rest := by
    induction tag with
    | nil => rw [List.nil_append, withoutComment_cons, if_pos rfl, Bool.not_true, List.nil_append]
    | cons c tag ih =>
      have hc : c ≠ backQuote := fun e => htag (by simp [e])
      have htag' : backQuote ∉ tag := fun h => htag (List.mem_cons_of_mem c h)
      rw [List.cons_append, withoutComment_cons, if_neg hc, if_neg (by simp), ih htag']
      rfl
  rw [List.cons_append, withoutComment_cons, if_pos rfl, Bool.not_false, inside]
  rfl

@[simp]
theorem withoutComment_comment (comment : List Char) :
    withoutComment false ('/' :: '/' :: comment) = [] := by
  simp [withoutComment_cons, backQuote]

/-! ## Tags -/

@[simp]
theorem withoutTags_nil (inTag : Bool) : withoutTags inTag [] = [] :=
  rfl

theorem withoutTags_cons (inTag : Bool) (c : Char) (rest : List Char) :
    withoutTags inTag (c :: rest)
      = if c = backQuote then withoutTags (!inTag) rest
        else if inTag then withoutTags inTag rest
        else c :: withoutTags inTag rest :=
  rfl

theorem withoutTags_append {code : List Char} (hquote : backQuote ∉ code) (rest : List Char) :
    withoutTags false (code ++ rest) = code ++ withoutTags false rest := by
  induction code with
  | nil => rfl
  | cons c code ih =>
    have hc : c ≠ backQuote := fun e => hquote (by simp [e])
    have hquote' : backQuote ∉ code := fun h => hquote (List.mem_cons_of_mem c h)
    rw [List.cons_append, withoutTags_cons, if_neg hc, if_neg (by simp), ih hquote']
    rfl

/-- A tag leaves nothing. -/
theorem withoutTags_tag {tag : List Char} (htag : backQuote ∉ tag) (rest : List Char) :
    withoutTags false (backQuote :: tag ++ backQuote :: rest) = withoutTags false rest := by
  have inside : withoutTags true (tag ++ backQuote :: rest) = withoutTags false rest := by
    induction tag with
    | nil => rw [List.nil_append, withoutTags_cons, if_pos rfl, Bool.not_true]
    | cons c tag ih =>
      have hc : c ≠ backQuote := fun e => htag (by simp [e])
      have htag' : backQuote ∉ tag := fun h => htag (List.mem_cons_of_mem c h)
      rw [List.cons_append, withoutTags_cons, if_neg hc, if_pos rfl, ih htag']
  rw [List.cons_append, withoutTags_cons, if_pos rfl, Bool.not_false, inside]

theorem withoutTags_of_not_mem {code : List Char} (hquote : backQuote ∉ code) :
    withoutTags false code = code := by
  simpa using withoutTags_append hquote []

/-! ## Empty pairs -/

/-- Whether the braces of a text only occur as pairs that enclose nothing. -/
def isPaired : List Char → Bool
  | [] => true
  | '{' :: '}' :: rest => isPaired rest
  | c :: rest => c != '{' && c != '}' && isPaired rest

theorem isPaired_of_not_mem {s : List Char} (hopen : '{' ∉ s) (hclose : '}' ∉ s) :
    isPaired s = true := by
  induction s with
  | nil => rfl
  | cons c s ih =>
    have ho : c ≠ '{' := fun e => hopen (by simp [e])
    have hc : c ≠ '}' := fun e => hclose (by simp [e])
    have hs : isPaired s = true :=
      ih (fun h => hopen (List.mem_cons_of_mem c h)) fun h => hclose (List.mem_cons_of_mem c h)
    simp [isPaired, ho, hc, hs]

theorem isPaired_append {s t : List Char} (hs : isPaired s = true) (ht : isPaired t = true) :
    isPaired (s ++ t) = true := by
  fun_induction isPaired s with
  | case1 => exact ht
  | case2 rest ih => simpa [isPaired] using ih hs
  | case3 c rest _ ih =>
    simp only [Bool.and_eq_true, bne_iff_ne, ne_eq] at hs
    obtain ⟨⟨ho, hc⟩, hrest⟩ := hs
    simp [isPaired, ho, hc, ih hrest]

/-- Nothing is left of the braces of a text that has only empty pairs. -/
theorem not_mem_withoutEmptyPairs {s : List Char} (h : isPaired s = true) :
    '{' ∉ withoutEmptyPairs s ∧ '}' ∉ withoutEmptyPairs s := by
  fun_induction isPaired s with
  | case1 => simp [withoutEmptyPairs]
  | case2 rest ih => simpa [withoutEmptyPairs] using ih h
  | case3 c rest _ ih =>
    simp only [Bool.and_eq_true, bne_iff_ne, ne_eq] at h
    obtain ⟨⟨ho, hc⟩, hrest⟩ := h
    obtain ⟨ihopen, ihclose⟩ := ih hrest
    simp [withoutEmptyPairs, Ne.symm ho, Ne.symm hc, ihopen, ihclose]

/-- Code that has only empty pairs outside of its tags opens and closes no block. -/
theorem braceCounts_of_isPaired {code : List Char} (h : isPaired (withoutTags false code) = true) :
    braceCounts code = (0, 0) := by
  obtain ⟨hopen, hclose⟩ := not_mem_withoutEmptyPairs h
  simp only [braceCounts]
  rw [List.count_eq_zero.2 hopen, List.count_eq_zero.2 hclose]

theorem withoutEmptyPairs_of_not_mem {s : List Char} (hs : '{' ∉ s) : withoutEmptyPairs s = s := by
  fun_induction withoutEmptyPairs s with
  | case1 rest ih => exact absurd List.mem_cons_self hs
  | case2 c rest _ ih => rw [ih fun h => hs (List.mem_cons_of_mem c h)]
  | case3 => rfl

/-- Texts that follow each other lose the empty pairs of each, unless a pair arises where they
meet. -/
theorem withoutEmptyPairs_append {s rest : List Char}
    (hrest : s.getLast? = some '{' → rest.head? ≠ some '}') :
    withoutEmptyPairs (s ++ rest) = withoutEmptyPairs s ++ withoutEmptyPairs rest := by
  fun_induction withoutEmptyPairs s with
  | case1 s ih =>
    have hrest' : s.getLast? = some '{' → rest.head? ≠ some '}' := by
      intro hlast
      apply hrest
      simp [List.getLast?_cons, hlast]
    exact ih hrest'
  | case2 c s hpair ih =>
    have hrest' : s.getLast? = some '{' → rest.head? ≠ some '}' := by
      intro hlast
      apply hrest
      rw [List.getLast?_cons, hlast]
      rfl
    rw [List.cons_append, withoutEmptyPairs, ih hrest', List.cons_append]
    -- The first character could only pair with the one behind it, or where the text ends.
    rintro behind rfl hbehind
    cases s with
    | nil => exact hrest rfl (congrArg List.head? hbehind)
    | cons d s =>
      obtain ⟨rfl, -⟩ := List.cons.inj hbehind
      exact hpair s rfl rfl
  | case3 => rfl

/-- Taking out empty pairs takes out as many opening as closing braces. -/
theorem count_withoutEmptyPairs (s : List Char) :
    s.count '{' + (withoutEmptyPairs s).count '}'
      = s.count '}' + (withoutEmptyPairs s).count '{' := by
  fun_induction withoutEmptyPairs s with
  | case1 rest ih =>
    have hopen : ('{' :: '}' :: rest).count '{' = rest.count '{' + 1 := by simp
    have hclose : ('{' :: '}' :: rest).count '}' = rest.count '}' + 1 := by simp
    omega
  | case2 c rest _ ih =>
    simp only [List.count_cons]
    omega
  | case3 => rfl

end ApiDocs.GoSource
