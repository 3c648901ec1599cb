import ApiDocs.Proofs.FailingSteps
import ApiDocs.Run

/-!
# Steps of a run

What a step of a run comes to, as a function of what the run works on before it.
-/

set_option autoImplicit false

namespace ApiDocs

/-- A text is the name of a format or is refused. -/
theorem OutputFormat.parse_spec (text : String) :
    (Text.lowered (Text.trimmed text) ∉ OutputFormat.all.map OutputFormat.name ∧
        OutputFormat.parse text = .error (.configuration (.unknownFormat text))) ∨
      ∃ format, format.name = Text.lowered (Text.trimmed text) ∧
        OutputFormat.parse text = .ok format := by
  unfold OutputFormat.parse
  cases hfind : OutputFormat.all.find? fun f => f.name == Text.lowered (Text.trimmed text) with
  | none =>
    refine Or.inl ⟨?_, rfl⟩
    rintro hmem
    obtain ⟨format, hformat, hname⟩ := List.mem_map.1 hmem
    exact absurd hname (by simpa using List.find?_eq_none.1 hfind format hformat)
  | some format =>
    exact Or.inr ⟨format, by simpa using List.find?_some hfind, rfl⟩

namespace Run

/-- What a part of a run comes to: its outcome and what it leaves. -/
abbrev Result (α : Type) := Except Error α × Workspace

/-- A part of a run that starts from what the run works on. -/
theorem run_get_bind {α : Type} (step : Workspace → Run α) (w : Workspace) :
    (do step (← get) : Run α).run.run w = (step w).run.run w := rfl

theorem write_run (path : Path) (text : String) (w : Workspace) :
    (write path text).run.run w
      = ((w.files.writeText path text).2, ⟨(w.files.writeText path text).1, w.notices⟩) := by
  unfold write
  refine (run_get_bind _ w).trans ?_
  rcases w.files.writeText path text with ⟨files, outcome⟩
  cases outcome with
  | error e => rfl
  | ok _ => rfl

theorem report_run (notices : List Notice) (w : Workspace) :
    (report notices).run.run w = (.ok (), ⟨w.files, w.notices ++ notices⟩) := rfl

/-- A survey changes no file. -/
theorem survey_run (settings : Settings) (w : Workspace) :
    ∃ outcome notices, (survey settings).run.run w = (outcome, ⟨w.files, notices⟩) := by
  unfold survey
  split
  · next e _ => exact ⟨.error e, w.notices, rfl⟩
  · next filter _ =>
    rcases hsteps : (surveySteps w.files settings).run.run
        { roots := settings.roots, filter := filter } with ⟨outcome, s⟩
    cases outcome with
    | error e =>
      refine ⟨.error e, w.notices ++ s.notices, (run_get_bind _ w).trans ?_⟩
      rw [hsteps]
      rfl
    | ok _ =>
      refine ⟨.ok s.documentation, w.notices ++ s.notices, (run_get_bind _ w).trans ?_⟩
      rw [hsteps]
      rfl

end Run

end ApiDocs
