import ApiDocs.Annotations.Handler
import ApiDocs.Proofs.Text.Lines
import ApiDocs.Proofs.Text.Trimming

/-!
# Annotations written as lines

Each thing that can be said on a handler is written as a tag, in letters of any case, and a value
(`tags`, `value`). If its parts are such that the marks between them can be told from the parts
(`Writable`), it is read back from that line (`read_of_carries`), one kind after the other.
-/

set_option autoImplicit false

namespace ApiDocs.Annotations

open Text (Bare Stops Trimmed dropBlanks1?_cons isBlank isDigit isWord stops_cons takeWord?)

/-! ## Words -/

theorem takeWhile1?_mark {p : Char → Bool} {run : List Char} {mark : Char} (hne : run ≠ [])
    (hrun : ∀ c ∈ run, p c = true) (hmark : p mark = false) (rest : List Char) :
    Text.takeWhile1? p (run ++ mark :: rest) = some (run, mark :: rest) :=
  Text.takeWhile1?_run_append hne hrun (stops_cons.2 hmark)

theorem isPrefixOf?_mark (mark : Char) (rest : List Char) :
    [mark].isPrefixOf? (mark :: rest) = some rest :=
  Text.isPrefixOf?_append [mark] rest

theorem dropWhile_blank {rest : List Char} (h : Stops isBlank rest) :
    (' ' :: rest).dropWhile isBlank = rest := by
  rw [List.dropWhile_cons_of_pos (by decide), Text.dropWhile_of_stops h]

/-- A text has no blanks at its ends if it starts with something else and ends in a mark. -/
theorem trimmed_of_mark {start : List Char} {mark : Char} (hmark : isBlank mark = false)
    (h : Stops isBlank (start ++ [mark])) : Trimmed (start ++ [mark]) := by
  refine Text.trimWhile_eq_self_iff.2 ⟨h, ?_⟩
  rw [List.reverse_concat]
  exact stops_cons.2 hmark

/-- A text that can be told from the blanks around it. -/
def IsWordText (s : String) : Prop :=
  s ≠ "" ∧ ∀ c ∈ s.toList, isBlank c = false

instance (s : String) : Decidable (IsWordText s) :=
  decidable_of_iff (s ≠ "" ∧ s.toList.all (fun c => !isBlank c) = true)
    (and_congr_right' (by simp only [List.all_eq_true, Bool.not_eq_true']))

namespace IsWordText

variable {s : String}

theorem ne_nil (h : IsWordText s) : s.toList ≠ [] := fun hnil =>
  h.1 (String.toList_eq_nil_iff.1 hnil)

theorem stops (h : IsWordText s) (rest : List Char) : Stops isBlank (s.toList ++ rest) :=
  Text.stops_append h.ne_nil h.2 rest

theorem takeWord?_blank (h : IsWordText s) (rest : List Char) :
    takeWord? (s.toList ++ ' ' :: rest) = some (s.toList, ' ' :: rest) := by
  refine takeWhile1?_mark h.ne_nil ?_ (by decide) rest
  intro c hc
  rw [h.2 c hc]
  rfl

end IsWordText

/-! ## Tagged lines -/

/-- A line with a tag, in letters of any case, and a value after a blank. -/
def Carries (tag value line : String) : Prop :=
  ∃ name, Text.lower name = tag.toList ∧ line.toList = '@' :: (name ++ ' ' :: value.toList)

theorem toLower_of_isBlank {c : Char} (h : isBlank c = true) : c.toLower = c := by
  have hall : ∀ n ∈ Text.blankPoints, (Char.ofNat n).toLower = Char.ofNat n := by decide
  simpa using hall c.toNat (Text.toNat_mem_blankPoints h)

theorem isBlank_of_lower {name : List Char} (h : ∀ c ∈ Text.lower name, isBlank c = false) :
    ∀ c ∈ name, isBlank c = false := by
  intro c hc
  cases hblank : isBlank c with
  | false => rfl
  | true =>
    have hlower : c.toLower ∈ Text.lower name := List.mem_map_of_mem hc
    rw [toLower_of_isBlank hblank] at hlower
    rw [← hblank, h c hlower]

/-- What is left behind a tag when the blanks at the end of the line are dropped. -/
theorem dropEndWhile_carried {name value : List Char} (hname : ∀ c ∈ name, isBlank c = false)
    (hvalue : Trimmed value) :
    ∃ rest, Text.dropEndWhile isBlank (name ++ ' ' :: value) = name ++ rest ∧
      Stops (fun c => !isBlank c) rest ∧ Text.trim rest = value := by
  by_cases hempty : value = []
  · refine ⟨[], ?_, Text.stops_nil _, hempty.symm⟩
    rw [hempty, Text.dropEndWhile_concat_of_pos (by decide), Text.dropEndWhile_of_forall hname,
      List.append_nil]
  · have hends := hvalue.dropEndWhile_eq
    refine ⟨' ' :: value, ?_, stops_cons.2 (by decide), ?_⟩
    · rw [← List.singleton_append, ← List.append_assoc, Text.dropEndWhile_append, hends]
      rw [hends]
      exact hempty
    · rw [← List.singleton_append, Text.trim_blanks_append fun _ => Text.isBlank_of_mem_space]
      exact hvalue

theorem ofLine?_of_carries {tag value line : String} (htag : IsWordText tag)
    (hvalue : Trimmed value.toList) (h : Carries tag value line) :
    Tagged.ofLine? line = some ⟨tag, value.toList⟩ := by
  obtain ⟨name, hname, hline⟩ := h
  have hword : ∀ c ∈ name, isBlank c = false := isBlank_of_lower (hname ▸ htag.2)
  have hrun : ∀ c ∈ name, (!isBlank c) = true := by
    intro c hc
    rw [hword c hc]
    rfl
  have hnil : name ≠ [] := by
    rintro rfl
    exact htag.ne_nil hname.symm
  obtain ⟨rest, hbody, hstops, htrim⟩ := dropEndWhile_carried hword hvalue
  unfold Tagged.ofLine?
  rw [hline, Text.trim_cons (by decide), hbody]
  simp only [Text.takeWhile_run_append hrun hstops, Text.dropWhile_run_append hrun hstops,
    if_neg hnil, htrim, hname, String.ofList_toList]

/-- The tags that say something on a handler. -/
def handlerTags : List String :=
  ["title", "description", "summary", "accept", "produce", "produces", "resource", "param",
    "success", "failure", "router"]

/-- A line that carries no tag that says something on a handler. -/
def Untagged (line : String) : Prop :=
  ∀ t ∈ Tagged.ofLine? line, t.tag ∉ handlerTags

instance (line : String) : Decidable (Untagged line) :=
  inferInstanceAs (Decidable (∀ t ∈ Tagged.ofLine? line, t.tag ∉ handlerTags))

theorem HandlerLine.read_of_untagged {line : String} (h : Untagged line) : read line = .other := by
  unfold read
  cases hline : Tagged.ofLine? line with
  | none => rfl
  | some t =>
    have htag := h t hline
    simp only
    unfold Tagged.handler
    simp only [handlerTags, List.mem_cons, List.not_mem_nil, or_false, not_or] at htag
    split <;> simp_all

/-! ## Lists -/

/-- A text that can be an item of a list. -/
def IsItem (s : String) : Prop :=
  s ≠ "" ∧ Trimmed s.toList ∧ ',' ∉ s.toList

instance (s : String) : Decidable (IsItem s) :=
  inferInstanceAs (Decidable (_ ∧ _ ∧ _))

/-- Items with commas between them are read back. -/
theorem listItems_intercalate {items : List String} (hitems : ∀ s ∈ items, IsItem s) :
    listItems (",".intercalate items).toList = items := by
  by_cases hnil : items = []
  · rw [hnil]
    rfl
  · have hcomma : ∀ s ∈ items.map String.toList, ',' ∉ s := by
      intro s hs
      obtain ⟨item, hitem, rfl⟩ := List.mem_map.1 hs
      exact (hitems item hitem).2.2
    have htrim : (items.map String.toList).map Text.trim = items.map String.toList := by
      rw [List.map_map]
      exact List.map_congr_left fun item hitem => (hitems item hitem).2.1
    have hkeep : (items.map String.toList).filter (· ≠ []) = items.map String.toList := by
      refine List.filter_eq_self.2 fun s hs => decide_eq_true ?_
      obtain ⟨item, hitem, rfl⟩ := List.mem_map.1 hs
      exact fun hempty => (hitems item hitem).1 (String.toList_eq_nil_iff.1 hempty)
    have hchars : ",".toList = [','] := rfl
    unfold listItems
    rw [String.toList_intercalate, hchars, Text.pieces_intercalate (by simpa using hnil) hcomma, htrim,
      hkeep, List.map_map]
    simp [Function.comp_def]

theorem trimmed_intercalate {items : List String} (hitems : ∀ s ∈ items, IsItem s) :
    Trimmed (",".intercalate items).toList := by
  rw [String.toList_intercalate]
  refine Text.trimWhile_eq_self_iff.2 (Text.bare_intercalate ?_).1
  intro s hs
  obtain ⟨item, hitem, rfl⟩ := List.mem_map.1 hs
  obtain ⟨hne, htrimmed, -⟩ := hitems item hitem
  exact ⟨fun hnil => hne (String.toList_eq_nil_iff.1 hnil), Text.trimWhile_eq_self_iff.1 htrimmed⟩

/-! ## Parameters -/

/-- A parameter as it is written. -/
def Param.written (p : Param) : String :=
  p.name ++ " " ++ p.location ++ " " ++ p.type ++ " " ++ (if p.required then "true" else "false")
    ++ " \"" ++ p.description ++ "\""

/-- A parameter whose parts can be told from the blanks and the quotes around them. -/
structure Param.Writable (p : Param) : Prop where
  name : IsWordText p.name
  location : IsWordText p.location
  type : IsWordText p.type
  description : '"' ∉ p.description.toList

instance (p : Param) : Decidable p.Writable :=
  decidable_of_iff (IsWordText p.name ∧ IsWordText p.location ∧ IsWordText p.type
      ∧ '"' ∉ p.description.toList)
    ⟨fun ⟨name, location, type, description⟩ => ⟨name, location, type, description⟩,
      fun h => ⟨h.name, h.location, h.type, h.description⟩⟩

theorem Param.toList_written (p : Param) :
    p.written.toList = p.name.toList ++ ' ' :: (p.location.toList ++ ' ' :: (p.type.toList ++ ' ' ::
      ((if p.required then "true" else "false").toList ++ ' ' ::
        ('"' :: (p.description.toList ++ ['"']))))) := by
  simp [Param.written]

theorem quotedAfterBlanks_quoted {s : List Char} (hs : '"' ∉ s) :
    quotedAfterBlanks (' ' :: '"' :: (s ++ ['"'])) = s := by
  unfold quotedAfterBlanks
  rw [dropBlanks1?_cons (stops_cons.2 (by decide))]
  simp only [List.mem_append, List.mem_singleton, or_true, if_true]
  exact Text.takeWhile_ne_append hs []

theorem truth?_word (required : Bool) :
    truth? (if required then "true" else "false").toList = some required := by
  cases required <;> decide

theorem Param.read?_written {p : Param} (h : p.Writable) : Param.read? p.written.toList = some p := by
  have hrequired : IsWordText (if p.required then "true" else "false") := by
    cases p.required <;> decide
  rw [Param.toList_written]
  unfold Param.read?
  simp only [h.name.takeWord?_blank, h.location.takeWord?_blank, h.type.takeWord?_blank,
    hrequired.takeWord?_blank, dropBlanks1?_cons (h.location.stops _),
    dropBlanks1?_cons (h.type.stops _), dropBlanks1?_cons (hrequired.stops _), truth?_word,
    quotedAfterBlanks_quoted h.description, Option.bind_eq_bind, Option.bind_some,
    String.ofList_toList]
  rfl

theorem Param.trimmed_written {p : Param} (h : p.Writable) : Trimmed p.written.toList := by
  have hwritten : p.written.toList = p.name.toList ++ (' ' :: (p.location.toList ++ ' ' ::
      (p.type.toList ++ ' ' :: ((if p.required then "true" else "false").toList ++ ' ' :: '"' ::
        p.description.toList)))) ++ ['"'] := by
    simp [Param.toList_written]
  rw [hwritten]
  refine trimmed_of_mark (by decide) ?_
  rw [List.append_assoc]
  exact h.name.stops _

/-! ## Answers -/

/-- The three digits of a number below a thousand. -/
def threeDigits (n : Nat) : List Char :=
  [Nat.digitChar (n / 100), Nat.digitChar (n / 10 % 10), Nat.digitChar (n % 10)]

/-- The word for a shape. -/
def ResponseShape.word : ResponseShape → String
  | .object => "object"
  | .array => "array"

/-- An answer as it is written. The shape stands only in front of a type. -/
def Response.written (r : Response) : String :=
  String.ofList (threeDigits r.code.toNat)
    ++ (match r.type with
      | some type => " \x7b" ++ r.shape.word ++ "\x7d " ++ type
      | none => "")
    ++ " \"" ++ r.message ++ "\""

/-- An answer whose parts can be told from each other. -/
structure Response.Writable (r : Response) : Prop where
  code : r.code.toNat < 1000
  type : ∀ type ∈ r.type, IsWordText type ∧ '"' ∉ type.toList
  shape : r.type = none → r.shape = .object
  quote : '"' ∉ r.message.toList
  newline : '\n' ∉ r.message.toList

instance (r : Response) : Decidable r.Writable :=
  decidable_of_iff (r.code.toNat < 1000 ∧ (∀ type ∈ r.type, IsWordText type ∧ '"' ∉ type.toList)
      ∧ (r.type = none → r.shape = .object) ∧ '"' ∉ r.message.toList ∧ '\n' ∉ r.message.toList)
    ⟨fun ⟨code, type, shape, quote, newline⟩ => ⟨code, type, shape, quote, newline⟩,
      fun h => ⟨h.code, h.type, h.shape, h.quote, h.newline⟩⟩

theorem digitChar_spec : ∀ n < 10, '0' ≤ Nat.digitChar n ∧ Nat.digitChar n ≤ '9' ∧
    (Nat.digitChar n).toNat - 48 = n ∧ isDigit (Nat.digitChar n) = true := by
  decide

theorem codeOfDigits?_threeDigits {code : UInt16} (h : code.toNat < 1000) :
    codeOfDigits? (Nat.digitChar (code.toNat / 100)) (Nat.digitChar (code.toNat / 10 % 10))
      (Nat.digitChar (code.toNat % 10)) = some code := by
  obtain ⟨ha, ha', hundreds, -⟩ := digitChar_spec (code.toNat / 100) (by omega)
  obtain ⟨hb, hb', htens, -⟩ := digitChar_spec (code.toNat / 10 % 10) (by omega)
  obtain ⟨hc, hc', hones, -⟩ := digitChar_spec (code.toNat % 10) (by omega)
  have hsum : code.toNat / 100 * 100 + code.toNat / 10 % 10 * 10 + code.toNat % 10 = code.toNat := by
    omega
  unfold codeOfDigits?
  rw [if_pos ⟨ha, ha', hb, hb', hc, hc'⟩, hundreds, htens, hones, hsum, UInt16.ofNat_toNat]

theorem messageText_quoted {s : String} (hs : '"' ∉ s.toList) :
    messageText ('"' :: (s.toList ++ ['"'])) = s := by
  have hnone : ∀ c ∈ s.toList, (c == '"') = false := fun c hc =>
    beq_eq_false_iff_ne.2 fun h => hs (h ▸ hc)
  have htrim : Text.trim ('"' :: (s.toList ++ ['"'])) = '"' :: (s.toList ++ ['"']) := by
    rw [Text.trim_cons (by decide), Text.dropEndWhile_concat_of_neg (by decide)]
  have hbare : Bare (· == '"') s.toList :=
    ⟨fun c hc => hnone c (List.mem_of_head? hc), fun c hc =>
      hnone c (List.mem_reverse.1 (List.mem_of_head? hc))⟩
  -- both quotes are taken off, and then the message has none at its ends
  unfold messageText
  rw [htrim, ← List.cons_append, Text.trimWhile_concat_of_pos (by decide), Text.trimWhile,
    List.dropWhile_cons_of_pos (by decide), ← Text.trimWhile, Text.trimWhile_eq_self_iff.2 hbare,
    String.ofList_toList]

/-- A shape and a type are taken off the start of a text that goes on with a blank. -/
theorem takeType?_written (shape : ResponseShape) {type : String} (htype : IsWordText type)
    (hquote : '"' ∉ type.toList) (rest : List Char) :
    takeType? ('{' :: (shape.word.toList ++ '}' :: ' ' :: (type.toList ++ ' ' :: rest)))
      = some (shape.word.toList, type.toList, ' ' :: rest) := by
  have hword : ∀ c ∈ shape.word.toList, isWord c = true :=
    List.all_eq_true.1 (by cases shape <;> decide)
  have hne : shape.word.toList ≠ [] := by cases shape <;> decide
  have hbrace : isWord '}' = false := by decide
  have hblank := dropWhile_blank (htype.stops (' ' :: rest))
  have hrun : ∀ c ∈ type.toList, (!isBlank c && c != '"') = true := by
    intro c hc
    rw [htype.2 c hc, Bool.not_false, Bool.true_and, bne_iff_ne]
    exact fun h => hquote (h ▸ hc)
  have hspace : (!isBlank ' ' && ' ' != '"') = false := by decide
  unfold takeType?
  simp [isPrefixOf?_mark, takeWhile1?_mark hne hword hbrace, hblank,
    takeWhile1?_mark htype.ne_nil hrun hspace]

theorem isDigit_threeDigits {n : Nat} (h : n < 1000) :
    (isDigit (Nat.digitChar (n / 100)) && isDigit (Nat.digitChar (n / 10 % 10))
      && isDigit (Nat.digitChar (n % 10))) = true := by
  have hdigit : ∀ k < 10, isDigit (Nat.digitChar k) = true := fun k hk => (digitChar_spec k hk).2.2.2
  rw [hdigit _ (by omega), hdigit _ (by omega), hdigit _ (by omega)]
  rfl

theorem Response.read?_written {r : Response} (h : r.Writable) :
    Response.read? r.written.toList r.isSuccess = some r := by
  obtain ⟨code, isSuccess, shape, type, message⟩ := r
  have hcode : code.toNat < 1000 := h.code
  have htype : ∀ t ∈ type, IsWordText t ∧ '"' ∉ t.toList := h.type
  have hshape : type = none → shape = .object := h.shape
  have hnewline : '\n' ∉ '"' :: (message.toList ++ ['"']) := by simpa using h.newline
  have hmessage : messageText ('"' :: (message.toList ++ ['"'])) = message :=
    messageText_quoted h.quote
  have hquoted : Stops isBlank ('"' :: (message.toList ++ ['"'])) := stops_cons.2 (by decide)
  have hdigits := isDigit_threeDigits hcode
  have hnumber := codeOfDigits?_threeDigits hcode
  cases type with
  | none =>
    have hwritten : (Response.written ⟨code, isSuccess, shape, none, message⟩).toList
        = threeDigits code.toNat ++ ' ' :: '"' :: (message.toList ++ ['"']) := by
      simp [Response.written]
    -- what follows starts with a quote, so no shape is read from the message
    have hnone : takeType? ('"' :: (message.toList ++ ['"'])) = none := rfl
    rw [hwritten, hshape rfl]
    simp only [threeDigits, List.cons_append, List.nil_append, Response.read?, hdigits,
      dropWhile_blank hquoted, hnone, Text.dropWhile_of_stops hquoted, hnewline, hnumber, hmessage,
      if_true, if_false, Option.map_some]
  | some type =>
    obtain ⟨hword, hquote⟩ := htype type rfl
    have hwritten : (Response.written ⟨code, isSuccess, shape, some type, message⟩).toList
        = threeDigits code.toNat ++ ' ' :: '{' :: (shape.word.toList ++ '}' :: ' ' ::
            (type.toList ++ ' ' :: '"' :: (message.toList ++ ['"']))) := by
      simp [Response.written]
    have hbrace : ∀ rest, Stops isBlank ('{' :: rest) := fun _ => stops_cons.2 (by decide)
    have hofWord : ResponseShape.ofWord shape.word.toList = shape := by cases shape <;> decide
    rw [hwritten]
    simp only [threeDigits, List.cons_append, List.nil_append, Response.read?, hdigits,
      dropWhile_blank (hbrace _), takeType?_written shape hword hquote, hofWord,
      dropWhile_blank hquoted, hnewline, hnumber, hmessage, if_true, if_false, Option.map_some,
      String.ofList_toList]

theorem Response.trimmed_written {r : Response} (h : r.Writable) : Trimmed r.written.toList := by
  have hblank : ∀ n < 10, isBlank (Nat.digitChar n) = false := by decide
  have hcode := h.code
  have hwritten : r.written.toList = threeDigits r.code.toNat ++ ((match r.type with
      | some type => " \x7b" ++ r.shape.word ++ "\x7d " ++ type
      | none => "").toList ++ ' ' :: '"' :: r.message.toList) ++ ['"'] := by
    simp [Response.written]
  rw [hwritten]
  exact trimmed_of_mark (by decide) (stops_cons.2 (hblank _ (by omega)))

/-! ## Routes -/

/-- A route as it is written. -/
def Router.written (r : Router) : String :=
  r.path ++ " [" ++ r.method.name ++ "]"

theorem Router.read?_written {r : Router} (h : IsWordText r.path) :
    Router.read? r.written.toList = some r := by
  have hwritten : r.written.toList
      = r.path.toList ++ ' ' :: '[' :: (r.method.name.toList ++ [']']) := by
    simp [Router.written]
  have hword : ∀ c ∈ r.method.name.toList, isWord c = true :=
    List.all_eq_true.1 (by cases r.method <;> decide)
  have hne : r.method.name.toList ≠ [] := by cases r.method <;> decide
  have htake := takeWhile1?_mark hne hword (by decide : isWord ']' = false) []
  have hparse : HttpMethod.parse r.method.name = .ok r.method := by cases r.method <;> decide
  have hmethod : bracketedMethod? (' ' :: '[' :: (r.method.name.toList ++ [']']))
      = some r.method.name.toList := by
    unfold bracketedMethod?
    simp [dropBlanks1?_cons (stops_cons.2 (by decide : isBlank '[' = false)), isPrefixOf?_mark,
      htake]
  rw [hwritten]
  unfold Router.read?
  simp [h.takeWord?_blank, hmethod, hparse, Except.toOption]

theorem Router.trimmed_written {r : Router} (h : IsWordText r.path) : Trimmed r.written.toList := by
  have hwritten : r.written.toList
      = r.path.toList ++ (' ' :: '[' :: r.method.name.toList) ++ [']'] := by
    simp [Router.written]
  rw [hwritten]
  refine trimmed_of_mark (by decide) ?_
  rw [List.append_assoc]
  exact h.stops _

/-! ## What a line says -/

namespace HandlerLine

/-- The tags under which something is written. -/
def tags : HandlerLine → List String
  | other => []
  | malformed _ => []
  | title _ => ["title"]
  | description _ => ["description"]
  | summary _ => ["summary"]
  | accept _ => ["accept"]
  | produce _ => ["produce", "produces"]
  | resource _ => ["resource"]
  | param _ => ["param"]
  | response r => [if r.isSuccess then "success" else "failure"]
  | router _ => ["router"]

/-- What is written behind the tag. -/
def value : HandlerLine → String
  | other => ""
  | malformed _ => ""
  | title text => text
  | description text => text
  | summary text => text
  | accept items => ",".intercalate items
  | produce items => ",".intercalate items
  | resource text => text
  | param p => p.written
  | response r => r.written
  | router r => r.written

/-- What can be told from the marks around it when it is written. -/
def Writable : HandlerLine → Prop
  | other => True
  | malformed _ => True
  | title text => Trimmed text.toList
  | description text => Trimmed text.toList
  | summary text => Trimmed text.toList
  | accept items => ∀ s ∈ items, IsItem s
  | produce items => ∀ s ∈ items, IsItem s
  | resource text => Trimmed text.toList
  | param p => p.Writable
  | response r => r.Writable
  | router r => IsWordText r.path

variable {l : HandlerLine} {tag line : String}

theorem tags_subset_handlerTags (l : HandlerLine) : l.tags ⊆ handlerTags := by
  cases l with
  | response r => cases hsuccess : r.isSuccess <;> simp [tags, handlerTags, hsuccess]
  | _ => simp [tags, handlerTags]

theorem trimmed_value (h : l.Writable) : Trimmed l.value.toList := by
  cases l with
  | other => rfl
  | malformed notice => rfl
  | title text => exact h
  | description text => exact h
  | summary text => exact h
  | accept items => exact trimmed_intercalate h
  | produce items => exact trimmed_intercalate h
  | resource text => exact h
  | param p => exact Param.trimmed_written h
  | response r => exact Response.trimmed_written h
  | router r => exact Router.trimmed_written h

theorem handler_value (htag : tag ∈ l.tags) (h : l.Writable) :
    Tagged.handler ⟨tag, l.value.toList⟩ = l := by
  cases l with
  | other => exact absurd htag List.not_mem_nil
  | malformed notice => exact absurd htag List.not_mem_nil
  | title text =>
    obtain rfl := List.mem_singleton.1 htag
    simp [Tagged.handler, value]
  | description text =>
    obtain rfl := List.mem_singleton.1 htag
    simp [Tagged.handler, value]
  | summary text =>
    obtain rfl := List.mem_singleton.1 htag
    simp [Tagged.handler, value]
  | resource text =>
    obtain rfl := List.mem_singleton.1 htag
    simp [Tagged.handler, value]
  | accept items =>
    obtain rfl := List.mem_singleton.1 htag
    simpa [Tagged.handler, value] using listItems_intercalate h
  | produce items =>
    rcases List.mem_cons.1 htag with rfl | htag
    · simpa [Tagged.handler, value] using listItems_intercalate h
    · obtain rfl := List.mem_singleton.1 htag
      simpa [Tagged.handler, value] using listItems_intercalate h
  | param p =>
    obtain rfl := List.mem_singleton.1 htag
    have hread : Param.read? p.written.toList = some p := Param.read?_written h
    simp [Tagged.handler, value, hread, orMalformed]
  | response r =>
    obtain rfl := List.mem_singleton.1 htag
    have hread : Response.read? r.written.toList r.isSuccess = some r := Response.read?_written h
    cases hsuccess : r.isSuccess <;> rw [hsuccess] at hread
    · simp [Tagged.handler, value, hread, orMalformed]
    · simp [Tagged.handler, value, hread, orMalformed]
  | router r =>
    obtain rfl := List.mem_singleton.1 htag
    have hread : Router.read? r.written.toList = some r := Router.read?_written h
    simp [Tagged.handler, value, hread, orMalformed]

/-- What can be told from the marks around it is read back. -/
theorem read_of_carries (htag : tag ∈ l.tags) (h : l.Writable) (hline : Carries tag l.value line) :
    read line = l := by
  have hwords : ∀ tag ∈ handlerTags, IsWordText tag := by decide
  have hword : IsWordText tag := hwords tag (tags_subset_handlerTags l htag)
  unfold read
  rw [ofLine?_of_carries hword (trimmed_value h) hline]
  exact handler_value htag h

end HandlerLine

end ApiDocs.Annotations
