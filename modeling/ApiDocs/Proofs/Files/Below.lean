import ApiDocs.Proofs.Path

/-!
# Paths below a directory

Joining names to a path one after the other leads below it (`below`). The directory that holds the
result is found again on the text of the path alone: it is the path without its last name
(`parent?_join_join`), and where there was only one name, the path that it was joined to, but for
silent steps at its end (`parent?_join_spec`).
-/

set_option autoImplicit false

namespace ApiDocs.Path

open Text (pieces pieces_append_cons pieces_of_not_mem pieces_ne_nil)

/-- A text that names an entry of a directory. -/
structure IsName (s : String) : Prop where
  slash : '/' ∉ s.toList
  proper : FileSystem.isFixedStep s = false

instance (s : String) : Decidable (IsName s) :=
  decidable_of_iff ('/' ∉ s.toList ∧ FileSystem.isFixedStep s = false)
    ⟨fun h => ⟨h.1, h.2⟩, fun h => ⟨h.slash, h.proper⟩⟩

/-- The text of a path with the slash that a next step needs in front of it. -/
def opened (s : List Char) : List Char :=
  if s = [] ∨ s.getLast? = some '/' then s else s ++ ['/']

/-- The path that names lead to from another path. -/
def below (p : Path) (names : List String) : Path :=
  names.foldl (fun path name => path.join ⟨name⟩) p

variable {p q r : Path} {name : String} {names : List String}

/-! ## Joining -/

theorem IsName.ne_empty (h : IsName name) : name ≠ "" :=
  (FileSystem.isFixedStep_eq_false_iff.1 h.proper).1

theorem IsName.isAbsolute (h : IsName name) : isAbsolute ⟨name⟩ = false :=
  isAbsolute_of_not_mem h.slash

theorem IsName.isSilent (h : IsName name) : isSilent name.toList = false := by
  obtain ⟨hempty, hdot, -⟩ := FileSystem.isFixedStep_eq_false_iff.1 h.proper
  have hnil : name.toList ≠ [] := fun h => hempty (String.toList_eq_nil_iff.1 h)
  have hone : name.toList ≠ ['.'] := fun h => hdot (String.toList_inj.1 h)
  simp [Path.isSilent, hnil, hone]

theorem toList_join (hq : q.isAbsolute = false) :
    (p.join q).text.toList = opened p.text.toList ++ q.text.toList := by
  unfold join opened
  rw [hq]
  simp only [Bool.false_eq_true, if_false]
  split
  · rw [String.toList_append]
  · rw [String.toList_append, String.toList_append]
    rfl

theorem isPrefix_opened (s : List Char) : s <+: opened s := by
  unfold opened
  split
  · exact List.prefix_refl s
  · exact List.prefix_append s _

theorem opened_append (s : List Char) {t : List Char} (ht : t ≠ []) :
    opened (s ++ t) = s ++ opened t := by
  unfold opened
  rw [List.getLast?_append_of_ne_nil _ ht]
  simp only [List.append_eq_nil_iff, ht, and_false, false_or]
  split
  · rfl
  · rw [List.append_assoc]

theorem isPrefix_join (hq : q.isAbsolute = false) :
    p.text.toList <+: (p.join q).text.toList := by
  rw [toList_join hq]
  exact (isPrefix_opened _).trans (List.prefix_append _ _)

/-- Joining relative paths is associative. -/
theorem join_join (hq : q.isAbsolute = false) (hr : r.isAbsolute = false) (hne : q.text ≠ "") :
    p.join (q.join r) = (p.join q).join r := by
  have hnil : q.text.toList ≠ [] := fun h => hne (String.toList_eq_nil_iff.1 h)
  have hqr : (q.join r).isAbsolute = false := (isAbsolute_join hr).trans hq
  have htext : (p.join (q.join r)).text = ((p.join q).join r).text := by
    rw [← String.toList_inj, toList_join hqr, toList_join hr, toList_join hr, toList_join hq,
      opened_append _ hnil, List.append_assoc]
  exact congrArg Path.mk htext

/-- The pieces of a path are still there when a name is joined, except for an empty one at the end. -/
theorem exists_pieces_opened {name : List Char} (h : '/' ∉ name) (s : List Char) :
    ∃ before, pieces '/' (opened s ++ name) = before ++ [name] ∧
      (pieces '/' s = before ∨ pieces '/' s = before ++ [[]]) := by
  unfold opened
  split
  · next hend =>
    rcases hend with rfl | hslash
    · exact ⟨[], pieces_of_not_mem h, Or.inr rfl⟩
    · obtain ⟨before, rfl⟩ := List.getLast?_eq_some_iff.1 hslash
      refine ⟨pieces '/' before, ?_, Or.inr (Text.pieces_concat_sep '/' before)⟩
      rw [List.append_assoc, List.singleton_append, pieces_append_cons, pieces_of_not_mem h]
  · refine ⟨pieces '/' s, ?_, Or.inl rfl⟩
    rw [List.append_assoc, List.singleton_append, pieces_append_cons, pieces_of_not_mem h]

/-! ## The directory that holds a path -/

variable {absolute : Bool}

theorem dropSilent_cons {step : List Char} (h : isSilent step = false) (rest : List (List Char)) :
    dropSilent absolute (step :: rest) = step :: rest := by
  have hne : step ≠ [] := by
    rintro rfl
    exact absurd h (by decide)
  cases rest with
  | nil => simp [dropSilent, h, hne]
  | cons next others => simp [dropSilent, h]

/-- Only silent steps are dropped. -/
theorem exists_eq_append_dropSilent (absolute : Bool) (steps : List (List Char)) :
    ∃ silent, steps = silent ++ dropSilent absolute steps ∧ ∀ s ∈ silent, isSilent s = true := by
  induction steps with
  | nil => exact ⟨[], rfl, by simp⟩
  | cons step rest ih =>
    cases rest with
    | nil =>
      unfold dropSilent
      split
      · next hdrop =>
        refine ⟨[step], rfl, ?_⟩
        intro s hs
        rw [List.mem_singleton.1 hs]
        simp only [Bool.or_eq_true, beq_iff_eq, Bool.and_eq_true] at hdrop
        rcases hdrop with rfl | ⟨-, hsilent⟩
        · rfl
        · exact hsilent
      · exact ⟨[], rfl, by simp⟩
    | cons next others =>
      unfold dropSilent
      split
      · next hsilent =>
        obtain ⟨silent, hsteps, hall⟩ := ih
        refine ⟨step :: silent, by rw [List.cons_append, ← hsteps], ?_⟩
        intro s hs
        rcases List.mem_cons.1 hs with rfl | hs
        · exact hsilent
        · exact hall s hs
      · exact ⟨[], rfl, by simp⟩

/-- The steps that are left of the directory of a path. -/
def trunk (absolute : Bool) (steps : List (List Char)) : List (List Char) :=
  (dropSilent absolute steps.reverse).reverse

theorem exists_eq_trunk_append (absolute : Bool) (steps : List (List Char)) :
    ∃ silent, steps = trunk absolute steps ++ silent ∧ ∀ s ∈ silent, isSilent s = true := by
  obtain ⟨silent, hsteps, hsilent⟩ := exists_eq_append_dropSilent absolute steps.reverse
  refine ⟨silent.reverse, ?_, fun s hs => hsilent s (List.mem_reverse.1 hs)⟩
  unfold trunk
  rw [← List.reverse_append, ← hsteps, List.reverse_reverse]

theorem trunk_concat {last : List Char} (h : isSilent last = false) (steps : List (List Char)) :
    trunk absolute (steps ++ [last]) = steps ++ [last] := by
  unfold trunk
  rw [List.reverse_append, List.reverse_singleton, List.singleton_append, dropSilent_cons h,
    List.reverse_cons, List.reverse_reverse]

theorem dropSilent_reverse {steps before : List (List Char)} {last : List Char}
    (hsteps : steps = before ++ [last]) (h : isSilent last = false) :
    dropSilent absolute steps.reverse = last :: before.reverse := by
  rw [hsteps, List.reverse_append, List.reverse_singleton, List.singleton_append,
    dropSilent_cons h]

/-- The directory of a joined path has what is left of the steps before the name. -/
theorem exists_parent?_join (p : Path) (h : IsName name) :
    ∃ start body before, p.text.toList = start ++ body ∧ (start = [] ∨ start = ['/']) ∧
      (pieces '/' body = before ∨ pieces '/' body = before ++ [[]]) ∧
      (p.join ⟨name⟩).parent? = some
        ⟨String.ofList (start ++ ['/'].intercalate (trunk (start == ['/']) before))⟩ := by
  have hjoin := toList_join (p := p) h.isAbsolute
  by_cases habsolute : p.isAbsolute = true
  · have hhead : p.text.toList.head? = some '/' := by simpa [isAbsolute] using habsolute
    obtain ⟨body, hp⟩ := List.head?_eq_some_iff.1 hhead
    obtain ⟨before, hpieces, hbody⟩ := exists_pieces_opened h.slash body
    refine ⟨['/'], body, before, hp, Or.inr rfl, hbody, ?_⟩
    have hopened : opened ('/' :: body) = '/' :: opened body := by
      cases body with
      | nil => rfl
      | cons c rest => exact opened_append ['/'] (List.cons_ne_nil c rest)
    rw [hp, hopened, List.cons_append] at hjoin
    unfold parent?
    rw [hjoin]
    simp only [dropSilent_reverse hpieces h.isSilent]
    rfl
  · obtain ⟨before, hpieces, hbody⟩ := exists_pieces_opened h.slash p.text.toList
    refine ⟨[], p.text.toList, before, rfl, Or.inl rfl, hbody, ?_⟩
    have hrelative : (p.join ⟨name⟩).isAbsolute ≠ true := by
      rwa [isAbsolute_join h.isAbsolute]
    unfold parent?
    split
    · next body hbody =>
      refine absurd ?_ hrelative
      rw [isAbsolute, hbody]
      rfl
    · rw [hjoin, dropSilent_reverse hpieces h.isSilent]
      rfl

/-- A path whose last step is a name is the directory that holds what is joined to it. -/
theorem parent?_join_join {last : String} (p : Path) (hlast : IsName last) (h : IsName name) :
    ((p.join ⟨last⟩).join ⟨name⟩).parent? = some (p.join ⟨last⟩) := by
  obtain ⟨start, body, before, htext, hstart, hbody, hparent⟩ :=
    exists_parent?_join (p.join ⟨last⟩) h
  have hend : (pieces '/' body).getLast? = some last.toList := by
    obtain ⟨pre, hpre, -⟩ := exists_pieces_opened hlast.slash p.text.toList
    rw [toList_join hlast.isAbsolute] at htext
    rw [htext] at hpre
    have hlast : (pieces '/' (start ++ body)).getLast? = some last.toList := by
      rw [hpre, List.getLast?_concat]
    rcases hstart with rfl | rfl
    · exact hlast
    · have hcons : pieces '/' (['/'] ++ body) = [[]] ++ pieces '/' body :=
        pieces_append_cons '/' [] body
      rwa [hcons, List.getLast?_append_of_ne_nil _ (pieces_ne_nil '/' body)] at hlast
  have hbefore : pieces '/' body = before := by
    rcases hbody with hbody | hbody
    · exact hbody
    · rw [hbody, List.getLast?_concat, Option.some.injEq] at hend
      exact absurd (String.toList_eq_nil_iff.1 hend.symm) hlast.ne_empty
  obtain ⟨others, hothers⟩ := List.getLast?_eq_some_iff.1 hend
  rw [hparent, ← hbefore, hothers, trunk_concat hlast.isSilent, ← hothers,
    Text.intercalate_pieces, ← htext, String.ofList_toList]

theorem intercalate_append {first : List (List Char)} (hne : first ≠ [])
    (others : List (List Char)) :
    ['/'].intercalate (first ++ others)
      = ['/'].intercalate first ++ others.flatMap fun s => '/' :: s := by
  induction first with
  | nil => exact absurd rfl hne
  | cons s rest ih =>
    cases rest with
    | nil =>
      induction others generalizing s with
      | nil => simp
      | cons next others ih' =>
        have hnext := ih' next (by simp) (by simp)
        rw [List.singleton_append] at hnext ⊢
        rw [List.intercalate_cons_cons, hnext]
        simp
    | cons next rest =>
      have hrest := ih (List.cons_ne_nil next rest)
      rw [List.cons_append, List.cons_append, List.intercalate_cons_cons, List.intercalate_cons_cons,
        ← List.cons_append, hrest]
      simp only [List.append_assoc]

/-- Silent steps behind a text add nothing to its names but dots. -/
theorem exists_namesOf_append {silent : List (List Char)}
    (hsilent : ∀ s ∈ silent, isSilent s = true) (s : List Char) :
    ∃ dots, namesOf (s ++ silent.flatMap fun t => '/' :: t) = namesOf s ++ dots ∧
      ∀ n ∈ dots, n = "." := by
  induction silent generalizing s with
  | nil => exact ⟨[], by simp, by simp⟩
  | cons t silent ih =>
    obtain ⟨dots, hdots, hall⟩ := ih (fun u hu => hsilent u (List.mem_cons_of_mem t hu)) t
    have ht : namesOf t = [] ∨ namesOf t = ["."] := by
      have hsil := hsilent t List.mem_cons_self
      simp only [isSilent, Bool.or_eq_true, beq_iff_eq] at hsil
      rcases hsil with rfl | rfl
      · exact Or.inl rfl
      · exact Or.inr (by decide)
    refine ⟨namesOf t ++ dots, ?_, ?_⟩
    · rw [List.flatMap_cons, List.cons_append, namesOf_append_cons, hdots]
    · intro n hn
      rcases List.mem_append.1 hn with hn | hn
      · rcases ht with ht | ht
        · rw [ht] at hn
          exact absurd hn List.not_mem_nil
        · rw [ht] at hn
          exact List.mem_singleton.1 hn
      · exact hall n hn

/-- The directory of a joined path is the path that it was joined to, but for silent steps at the
end. -/
theorem parent?_join_spec (p : Path) (h : IsName name) :
    ∃ q : Path, (p.join ⟨name⟩).parent? = some q ∧ q.text.toList <+: p.text.toList ∧
      (q.text ≠ "" → ∃ dots, p.names = q.names ++ dots ∧ ∀ s ∈ dots, s = ".") := by
  obtain ⟨start, body, before, htext, hstart, hbody, hparent⟩ := exists_parent?_join p h
  refine ⟨_, hparent, ?_⟩
  obtain ⟨silent, hpieces, hsilent⟩ : ∃ silent,
      pieces '/' body = trunk (start == ['/']) before ++ silent ∧
        ∀ s ∈ silent, isSilent s = true := by
    obtain ⟨silent, hbefore, hsilent⟩ := exists_eq_trunk_append (start == ['/']) before
    rcases hbody with hbody | hbody
    · exact ⟨silent, hbody.trans hbefore, hsilent⟩
    · refine ⟨silent ++ [[]], ?_, ?_⟩
      · rw [hbody, ← List.append_assoc, ← hbefore]
      · intro s hs
        rcases List.mem_append.1 hs with hs | hs
        · exact hsilent s hs
        · rw [List.mem_singleton.1 hs]
          rfl
  generalize trunk (start == ['/']) before = left at hpieces ⊢
  rw [names_eq_namesOf, names_eq_namesOf, String.toList_ofList, htext]
  have hbody' := Text.intercalate_pieces '/' body
  rw [hpieces] at hbody'
  by_cases hleft : left = []
  · subst hleft
    rw [List.nil_append] at hpieces hbody'
    rw [List.intercalate_nil, List.append_nil]
    refine ⟨List.prefix_append _ _, fun hne => ?_⟩
    have hslash : start = ['/'] := hstart.resolve_left (by rintro rfl; exact hne rfl)
    have hflat : '/' :: body = silent.flatMap fun t => '/' :: t := by
      have hsilent_ne : silent ≠ [] := hpieces ▸ pieces_ne_nil '/' body
      obtain ⟨t, rest, rfl⟩ := List.exists_cons_of_ne_nil hsilent_ne
      have happend := intercalate_append (List.cons_ne_nil [] []) (t :: rest)
      rw [List.singleton_append, List.intercalate_cons_cons, hbody'] at happend
      simpa using happend
    rw [hslash, List.singleton_append, hflat]
    exact exists_namesOf_append hsilent []
  · rw [intercalate_append hleft] at hbody'
    rw [← hbody']
    constructor
    · rw [← List.append_assoc]
      exact List.prefix_append _ _
    · intro _
      rw [← List.append_assoc]
      exact exists_namesOf_append hsilent _

/-! ## Several names -/

theorem below_cons (p : Path) (name : String) (names : List String) :
    p.below (name :: names) = (p.join ⟨name⟩).below names := rfl

theorem below_concat (p : Path) (names : List String) (name : String) :
    p.below (names ++ [name]) = (p.below names).join ⟨name⟩ := by
  unfold below
  rw [List.foldl_append]
  rfl

theorem names_below (h : ∀ s ∈ names, IsName s) : (p.below names).names = p.names ++ names := by
  induction names generalizing p with
  | nil => rw [List.append_nil]; rfl
  | cons name rest ih =>
    have hname := h name List.mem_cons_self
    have hrest : ∀ s ∈ rest, IsName s := fun s hs => h s (List.mem_cons_of_mem name hs)
    rw [below_cons, ih hrest, names_join hname.isAbsolute,
      names_of_not_mem hname.ne_empty hname.slash, List.append_assoc]
    rfl

theorem isAbsolute_below (h : ∀ s ∈ names, IsName s) :
    (p.below names).isAbsolute = p.isAbsolute := by
  induction names generalizing p with
  | nil => rfl
  | cons name rest ih =>
    have hname := h name List.mem_cons_self
    have hrest : ∀ s ∈ rest, IsName s := fun s hs => h s (List.mem_cons_of_mem name hs)
    rw [below_cons, ih hrest, isAbsolute_join hname.isAbsolute]

theorem text_join_ne_empty (h : IsName name) (p : Path) : (p.join ⟨name⟩).text ≠ "" := by
  intro hempty
  have hjoin := toList_join (p := p) h.isAbsolute
  rw [hempty] at hjoin
  obtain ⟨-, hname⟩ := List.append_eq_nil_iff.1 hjoin.symm
  exact h.ne_empty (String.toList_eq_nil_iff.1 hname)

theorem join_below (h : ∀ s ∈ names, IsName s) (hq : q.isAbsolute = false) (hne : q.text ≠ "") :
    p.join (q.below names) = (p.join q).below names := by
  induction names generalizing q with
  | nil => rfl
  | cons name rest ih =>
    have hname := h name List.mem_cons_self
    have hrest : ∀ s ∈ rest, IsName s := fun s hs => h s (List.mem_cons_of_mem name hs)
    rw [below_cons, below_cons, ih hrest ((isAbsolute_join hname.isAbsolute).trans hq)
      (text_join_ne_empty hname q), join_join hq hname.isAbsolute hne]

/-- The directory of a path is the path without its last name, if another name is left. -/
theorem parent?_below (h : ∀ s ∈ names ++ [name], IsName s) (hne : names ≠ []) (p : Path) :
    (p.below (names ++ [name])).parent? = some (p.below names) := by
  obtain ⟨before, last, rfl⟩ := (List.eq_nil_or_concat names).resolve_left hne
  rw [List.concat_eq_append] at *
  rw [below_concat _ (before ++ [last]), below_concat]
  exact parent?_join_join _ (h last (by simp)) (h name (by simp))

/-- There are at least as many characters in a path as there are names. -/
theorem length_le_length_below (h : ∀ s ∈ names, IsName s) (p : Path) :
    names.length ≤ (p.below names).text.length := by
  induction names using List.reverseRecOn with
  | nil => exact Nat.zero_le _
  | append_singleton before name ih =>
    have hname := h name (List.mem_append_right _ List.mem_cons_self)
    have hbefore := ih fun s hs => h s (List.mem_append_left _ hs)
    have hpos : 0 < name.length :=
      Nat.pos_of_ne_zero fun hzero => hname.ne_empty (String.length_eq_zero_iff.1 hzero)
    have hjoin : ((p.below before).join ⟨name⟩).text.toList.length
        = (opened (p.below before).text.toList ++ name.toList).length :=
      congrArg List.length (toList_join hname.isAbsolute)
    have hopened := (isPrefix_opened (p.below before).text.toList).length_le
    rw [List.length_append, String.length_toList, String.length_toList] at hjoin
    rw [String.length_toList] at hopened
    rw [below_concat, hjoin, List.length_append, List.length_singleton]
    omega

/-- The directory of a group lies below the output directory by the segments of the key. -/
theorem join_directory {key : GroupKey} (h : ∀ s ∈ key.segments, IsName s) (p : Path) :
    p.join key.directory = p.below key.segments := by
  obtain ⟨segment, rest, hsegments⟩ := List.exists_cons_of_ne_nil key.segments_ne_nil
  rw [hsegments] at h
  have hsegment := h segment List.mem_cons_self
  have hfirst : join ⟨""⟩ ⟨segment⟩ = ⟨segment⟩ := by
    unfold join
    rw [hsegment.isAbsolute]
    simp
  have hdirectory : key.directory = below ⟨segment⟩ rest := by
    change below ⟨""⟩ key.segments = _
    rw [hsegments, below_cons, hfirst]
  rw [hdirectory, hsegments, below_cons]
  exact join_below (fun s hs => h s (List.mem_cons_of_mem segment hs)) hsegment.isAbsolute
    hsegment.ne_empty

end ApiDocs.Path
