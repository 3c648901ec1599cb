import Mathlib.Data.List.Basic

/-!
# Steps that may fail

A step changes a state, and what it changed stays when it fails. Steps for some items are done one
after the other up to the first that fails (`allSucceed_or_fails`), so a loop over the items ends
where the last of them succeeds, or where the first failing one is left, whatever comes behind it.
-/

set_option autoImplicit false

namespace ApiDocs

variable {ε σ ι α β : Type}

/-- The second of two steps goes on where the first one ended, unless that failed. -/
theorem run_bind (first : ExceptT ε (StateM σ) α) (second : α → ExceptT ε (StateM σ) β) (s : σ) :
    (first >>= second).run.run s
      = match first.run.run s with
        | (.ok x, t) => (second x).run.run t
        | (.error e, t) => (.error e, t) := by
  change StateT.run (ExceptT.bindCont second (first.run.run s).1) (first.run.run s).2 = _
  rcases first.run.run s with ⟨outcome, t⟩
  cases outcome with
  | error e => rfl
  | ok x => rfl

/-- Steps for some items, one after the other, succeed and lead from one state to another. -/
inductive AllSucceed (step : ι → ExceptT ε (StateM σ) Unit) : σ → List ι → σ → Prop
  | nil (s : σ) : AllSucceed step s [] s
  | cons {item : ι} {rest : List ι} {s u t : σ} (hitem : (step item).run.run s = (.ok (), u))
      (hrest : AllSucceed step u rest t) : AllSucceed step s (item :: rest) t

variable {step : ι → ExceptT ε (StateM σ) Unit} {done items : List ι} {item : ι} {s u t : σ} {e : ε}

/-- Either all steps succeed, or a first one fails. -/
theorem allSucceed_or_fails (step : ι → ExceptT ε (StateM σ) Unit) (items : List ι) (s : σ) :
    (∃ t, AllSucceed step s items t) ∨
      ∃ done item rest u e t, items = done ++ item :: rest ∧ AllSucceed step s done u ∧
        (step item).run.run u = (.error e, t) := by
  induction items generalizing s with
  | nil => exact Or.inl ⟨s, .nil s⟩
  | cons first items ih =>
    rcases hfirst : (step first).run.run s with ⟨outcome, v⟩
    cases outcome with
    | error e => exact Or.inr ⟨[], first, items, s, e, v, rfl, .nil s, hfirst⟩
    | ok _ =>
      rcases ih v with ⟨t, hall⟩ | ⟨done, item, rest, u, e, t, rfl, hdone, hfails⟩
      · exact Or.inl ⟨t, .cons hfirst hall⟩
      · exact Or.inr ⟨first :: done, item, rest, u, e, t, rfl, .cons hfirst hdone, hfails⟩

/-- A loop goes on behind the steps that succeed. -/
theorem AllSucceed.forM_append_run (h : AllSucceed step s done u) (rest : List ι) :
    ((done ++ rest).forM step).run.run s = (rest.forM step).run.run u := by
  induction h with
  | nil s => rfl
  | cons hitem _ ih =>
    rw [List.cons_append, List.forM_eq_forM, List.forM_cons, run_bind, hitem]
    exact ih

theorem AllSucceed.forM_run (h : AllSucceed step s items t) :
    (items.forM step).run.run s = (.ok (), t) := by
  have hrun := h.forM_append_run []
  rw [List.append_nil] at hrun
  exact hrun

/-- A loop ends with the first step that fails. -/
theorem AllSucceed.forM_run_of_error (h : AllSucceed step s done u)
    (hfails : (step item).run.run u = (.error e, t)) (rest : List ι) :
    ((done ++ item :: rest).forM step).run.run s = (.error e, t) := by
  rw [h.forM_append_run, List.forM_eq_forM, List.forM_cons, run_bind, hfails]

/-! ## Steps that are noted -/

/-- The step with a note of the item it is done for, also when it fails. The notes are part of the
state. -/
def noting (step : ι → ExceptT ε (StateM σ) Unit) (item : ι) :
    ExceptT ε (StateM (List ι × σ)) Unit :=
  ExceptT.mk fun (noted, s) => ((step item).run.run s).map id fun t => (noted ++ [item], t)

theorem noting_run (step : ι → ExceptT ε (StateM σ) Unit) (item : ι) (noted : List ι) (s : σ) :
    (noting step item).run.run (noted, s)
      = (((step item).run.run s).1, noted ++ [item], ((step item).run.run s).2) := rfl

theorem AllSucceed.noting (h : AllSucceed step s items t) (noted : List ι) :
    AllSucceed (noting step) (noted, s) items (noted ++ items, t) := by
  induction h generalizing noted with
  | nil s =>
    rw [List.append_nil]
    exact .nil _
  | @cons item rest s u t hitem _ ih =>
    have hnoted : (ApiDocs.noting step item).run.run (noted, s) = (.ok (), noted ++ [item], u) := by
      rw [noting_run, hitem]
    have hrest := ih (noted ++ [item])
    rw [List.append_assoc, List.singleton_append] at hrest
    exact .cons hnoted hrest

end ApiDocs
