import LineShell.Proofs.Shell.Visit

/-!
Two runs under different setups, side by side on the same inputs.

As long as both handle every line alike, the runs are one and the same; at the
first line that they handle differently both are in the same state
(`run_lockstep`).
-/
namespace LineShell.Shell

variable {shell : Shell}

/-- Whether two runs are one and the same and come to no line that differs. -/
structure Alike (first second : Setup) (differs : Shell → Text → Prop)
    (inputs : List Input) (shell : Shell) : Prop where
  alike : ∀ visit ∈ visits first inputs shell, ¬ differs visit.shell visit.line
  same_visits : visits second inputs shell = visits first inputs shell
  same_run : run second inputs shell = run first inputs shell

/-- Whether a visit is the first of two runs that differs, and until then the
runs have come to the same lines in the same states. -/
structure PartAt (first second : Setup) (differs : Shell → Text → Prop)
    (inputs : List Input) (shell : Shell) (before : List Visit)
    (visit : Visit) : Prop where
  first_visits : visits first inputs shell = before ++ visit :: visit.next first
  second_visits :
    visits second inputs shell = before ++ visit :: visit.next second
  alike : ∀ earlier ∈ before, ¬ differs earlier.shell earlier.line
  differs : differs visit.shell visit.line
  first_run : run first inputs shell = visit.run first
  second_run : run second inputs shell = visit.run second

section Lockstep

variable {first second : Setup} {differs : Shell → Text → Prop} {text : Text}
  {inputs rest : List Input} {before : List Visit} {visit : Visit}

theorem Alike.interrupt (hprompt : second.prompt = first.prompt)
    (h : Alike first second differs rest (shell.say first.prompt)) :
    Alike first second differs (.interrupt :: rest) shell := by
  refine ⟨h.alike, ?_, ?_⟩
  · rw [visits, hprompt, h.same_visits, visits]
  · rw [run, hprompt, h.same_run, run]

theorem PartAt.interrupt (hprompt : second.prompt = first.prompt)
    (h : PartAt first second differs rest (shell.say first.prompt) before
      visit) :
    PartAt first second differs (.interrupt :: rest) shell before visit := by
  refine ⟨h.first_visits, ?_, h.alike, h.differs, h.first_run, ?_⟩
  · rw [visits, hprompt, h.second_visits]
  · rw [run, hprompt, h.second_run]

/-- A line that both handle alike leaves the runs alike, if they are alike
wherever they go on. -/
theorem Alike.line (hprompt : second.prompt = first.prompt)
    (hexit : text ≠ exitLine)
    (halike : ¬ differs (shell.say first.prompt) text)
    (hsame : (shell.say first.prompt).handleLine second text =
      (shell.say first.prompt).handleLine first text)
    (h : ((shell.say first.prompt).handleLine first text).1.ending? = none →
      Alike first second differs rest
        ((shell.say first.prompt).handleLine first text).2) :
    Alike first second differs (.line text :: rest) shell := by
  have hvisits := visits_line hexit first rest shell
  have hother := visits_line hexit second rest shell
  have hrun := run_line hexit first rest shell
  have hotherRun := run_line hexit second rest shell
  rw [Visit.next] at hvisits
  rw [Visit.next, hprompt, hsame] at hother
  rw [Visit.run] at hrun
  rw [Visit.run, hprompt, hsame] at hotherRun
  cases hending :
    ((shell.say first.prompt).handleLine first text).1.ending? with
  | some ending =>
      simp only [hending] at hvisits hother hrun hotherRun
      refine ⟨?_, hother.trans hvisits.symm, hotherRun.trans hrun.symm⟩
      intro visit hvisit
      rw [hvisits] at hvisit
      rw [List.mem_singleton.1 hvisit]
      exact halike
  | none =>
      have hrest := h hending
      simp only [hending] at hvisits hother hrun hotherRun
      rw [hrest.same_visits] at hother
      rw [hrest.same_run] at hotherRun
      refine ⟨?_, hother.trans hvisits.symm, hotherRun.trans hrun.symm⟩
      intro visit hvisit
      rw [hvisits] at hvisit
      rcases List.mem_cons.1 hvisit with rfl | hvisit
      · exact halike
      · exact hrest.alike visit hvisit

/-- Two runs part at a line that differs. -/
theorem PartAt.here (hprompt : second.prompt = first.prompt)
    (hexit : text ≠ exitLine) (hdiffers : differs (shell.say first.prompt) text)
    (rest : List Input) :
    PartAt first second differs (.line text :: rest) shell []
      ⟨shell.say first.prompt, text, rest⟩ := by
  refine ⟨visits_line hexit _ _ _, ?_, nofun, hdiffers, run_line hexit _ _ _,
    ?_⟩
  · rw [visits_line hexit, hprompt]
    rfl
  · rw [run_line hexit, hprompt]

/-- Two runs that part later part at the same place if a line that both handle
alike comes before. -/
theorem PartAt.cons (hprompt : second.prompt = first.prompt)
    (hexit : text ≠ exitLine)
    (halike : ¬ differs (shell.say first.prompt) text)
    (hsame : (shell.say first.prompt).handleLine second text =
      (shell.say first.prompt).handleLine first text)
    (hending : ((shell.say first.prompt).handleLine first text).1.ending? =
      none)
    (h : PartAt first second differs rest
      ((shell.say first.prompt).handleLine first text).2 before
      visit) :
    PartAt first second differs (.line text :: rest) shell
      (⟨shell.say first.prompt, text, rest⟩ :: before) visit := by
  refine ⟨?_, ?_, ?_, h.differs, ?_, ?_⟩
  · rw [visits_line hexit, Visit.next, hending, h.first_visits]
    rfl
  · rw [visits_line hexit, Visit.next, hprompt, hsame, hending, h.second_visits]
    rfl
  · intro earlier hearlier
    rcases List.mem_cons.1 hearlier with rfl | hearlier
    · exact halike
    · exact h.alike earlier hearlier
  · rw [run_line hexit, Visit.run, hending, h.first_run]
  · rw [run_line hexit, Visit.run, hprompt, hsame, hending, h.second_run]

/-- Two runs under setups that handle every line alike, unless it differs, are
the same up to the first line that differs. -/
theorem run_lockstep (hprompt : second.prompt = first.prompt)
    (hsame : ∀ shell line, ¬ differs shell line →
      shell.handleLine second line = shell.handleLine first line)
    (inputs : List Input) (shell : Shell) :
    Alike first second differs inputs shell ∨
      ∃ before visit,
        PartAt first second differs inputs shell before visit := by
  induction inputs generalizing shell with
  | nil =>
      refine Or.inl ⟨nofun, rfl, ?_⟩
      rw [run, run, hprompt]
  | cons input rest ih =>
      cases input with
      | interrupt =>
          rcases ih (shell.say first.prompt)
            with halike | ⟨before, visit, hpart⟩
          · exact Or.inl (halike.interrupt hprompt)
          · exact Or.inr ⟨before, visit, hpart.interrupt hprompt⟩
      | line text =>
          by_cases hexit : text = exitLine
          · left
            refine ⟨by simp [visits, hexit], by simp [visits, hexit], ?_⟩
            rw [run, run, if_pos hexit, if_pos hexit, hprompt]
          by_cases hdiffers : differs (shell.say first.prompt) text
          · exact Or.inr ⟨[], _, .here hprompt hexit hdiffers rest⟩
          have hline := hsame (shell.say first.prompt) text hdiffers
          cases hending :
            ((shell.say first.prompt).handleLine first text).1.ending? with
          | some ending =>
              exact Or.inl (.line hprompt hexit hdiffers hline fun hnone => by
                rw [hending] at hnone
                cases hnone)
          | none =>
              rcases ih ((shell.say first.prompt).handleLine first text).2 with
                halike | ⟨before, visit, hpart⟩
              · exact Or.inl (.line hprompt hexit hdiffers hline fun _ =>
                  halike)
              · exact Or.inr ⟨_, visit,
                  hpart.cons hprompt hexit hdiffers hline hending⟩

end Lockstep

end LineShell.Shell
