import LineShell.Proofs.Shell.Verdict

/-!
The lines that a run comes to, each with the shell that handles it and the
inputs after it.

From every one of them on, the run is what is left of it (`run_of_mem_visits`).
-/
namespace LineShell

theorem Reply.ending?_eq_failed_iff (reply : Reply) (failure : Failure) :
    reply.ending? = some (.failed failure) ↔ reply = .failed failure := by
  cases reply with
  | blank => simp [ending?]
  | done outcome => cases hexit :
      outcome.exitRequested <;> simp [ending?, hexit]
  | failed other => simp [ending?]

namespace Shell

/-- A line that a run comes to: the shell that handles it, and the inputs after
it. -/
structure Visit where
  shell : Shell
  line : Text
  rest : List Input

def visits (setup : Setup) : List Input → Shell → List Visit
  | [], _ => []
  | .interrupt :: rest, shell => visits setup rest (shell.say setup.prompt)
  | .line text :: rest, shell =>
    let prompted := shell.say setup.prompt
    if text = exitLine then
      []
    else
      ⟨prompted, text, rest⟩ ::
        match (prompted.handleLine setup text).1.ending? with
        | none => visits setup rest (prompted.handleLine setup text).2
        | some _ => []

/-- The lines that a run comes to after a visit. -/
def Visit.next (setup : Setup) (visit : Visit) : List Visit :=
  match (visit.shell.handleLine setup visit.line).1.ending? with
  | none => visits setup visit.rest (visit.shell.handleLine setup visit.line).2
  | some _ => []

theorem visits_line {text : Text} (h : text ≠ exitLine) (setup : Setup)
    (rest : List Input) (shell : Shell) :
    visits setup (.line text :: rest) shell =
      ⟨shell.say setup.prompt, text, rest⟩ ::
        Visit.next setup ⟨shell.say setup.prompt, text, rest⟩ := by
  rw [visits, if_neg h]
  rfl

/-- What is left of a run from a visit on. -/
def Visit.run (setup : Setup) (visit : Visit) : Run :=
  match (visit.shell.handleLine setup visit.line).1.ending? with
  | none =>
      Shell.run setup visit.rest (visit.shell.handleLine setup visit.line).2
  | some ending =>
      ⟨ending, visit.rest.length, (visit.shell.handleLine setup visit.line).2⟩

theorem run_line {text : Text} (h : text ≠ exitLine) (setup : Setup)
    (rest : List Input) (shell : Shell) :
    run setup (.line text :: rest) shell =
      Visit.run setup ⟨shell.say setup.prompt, text, rest⟩ := by
  rw [run, if_neg h, Visit.run]
  generalize (shell.say setup.prompt).handleLine setup text = handled
  obtain ⟨reply, after⟩ := handled
  cases reply with
  | blank => rfl
  | failed failure => rfl
  | done outcome => cases hexit :
      outcome.exitRequested <;> simp [Reply.ending?, hexit]

/-- The lines that a run comes to are handled with the same builtins, and the
run is what is left of it from any of them on. -/
theorem run_of_mem_visits {setup : Setup} {inputs : List Input} {shell : Shell}
    {visit : Visit} (h : visit ∈ visits setup inputs shell) :
    visit.shell.session.builtinNames = shell.session.builtinNames ∧
      run setup inputs shell = visit.run setup := by
  fun_induction visits setup inputs shell with
  | case1 => cases h
  | case2 rest shell ih => exact ih h
  | case3 => cases h
  | case4 text rest shell prompted hexit ih =>
      rw [run_line hexit]
      rcases List.mem_cons.1 h with rfl | h
      · exact ⟨rfl, rfl⟩
      · cases hending : (prompted.handleLine setup text).1.ending? with
        | none =>
            rw [hending] at h
            obtain ⟨hkept, hrun⟩ := ih h
            obtain ⟨cwd, hcwd⟩ := prompted.handleLine_session_eq setup text
            refine ⟨hkept.trans (by rw [hcwd]; rfl), ?_⟩
            rw [← hrun, Visit.run]
            simp only [prompted] at hending ⊢
            rw [hending]
        | some ending =>
            rw [hending] at h
            cases h

theorem run_failed_iff {setup : Setup} {inputs : List Input} {shell : Shell}
    {failure : Failure} :
    (run setup inputs shell).ending = .failed failure ↔
      ∃ visit ∈ visits setup inputs shell,
        (visit.shell.handleLine setup visit.line).1 = .failed failure := by
  fun_induction visits setup inputs shell with
  | case1 => simp [run]
  | case2 rest shell ih => exact ih
  | case3 => simp [run]
  | case4 text rest shell prompted hexit ih =>
      have hfirst :=
        Reply.ending?_eq_failed_iff (prompted.handleLine setup text).1 failure
      have hrun :
          (run setup (.line text :: rest) shell).ending = .failed failure ↔
          (prompted.handleLine setup text).1.ending? = some (.failed failure) ∨
          (prompted.handleLine setup text).1.ending? = none ∧
            (run setup rest (prompted.handleLine setup text).2).ending =
              .failed failure := by
        rw [run_line hexit, Visit.run]
        change (match (prompted.handleLine setup text).1.ending? with
          | none => run setup rest (prompted.handleLine setup text).2
          | some ending => ⟨ending, rest.length,
              (prompted.handleLine setup text).2⟩).ending = _ ↔ _
        cases (prompted.handleLine setup text).1.ending? with
        | none => simp
        | some ending => simp
      rw [hrun, hfirst, ih]
      cases hending : (prompted.handleLine setup text).1.ending? with
      | none => simp
      | some ending => simp

end Shell

end LineShell
