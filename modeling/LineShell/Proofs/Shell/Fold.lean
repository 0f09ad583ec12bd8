import LineShell.Proofs.Shell.Verdict
import LineShell.Proofs.Shell.Visit

/-!
A run of the shell is a fold.  Interrupts and blank lines ask for nothing; the
lines that are left are handled one after the other, up to the first that ends
the run.

Here a prompt is no part of a run: `Setup.quiet` is a setup without one.

Main statement: a run is the fold, it reads nothing after the line that ends it,
inputs that ask for nothing make no difference, and where `exit` is a builtin
neither does it make one that the line `exit 0` ends a run by itself
(`run_eq_fold`).
-/
namespace LineShell

/-- What an input asks for. -/
def Input.request? : Input → Option Text
  | .line text => if Text.allBlank text then none else some text
  | .interrupt => none

/-- The lines that ask for something. -/
def requests (inputs : List Input) : List Text :=
  inputs.filterMap Input.request?

theorem Input.eq_line_of_request? {input : Input} {line : Text}
    (h : input.request? = some line) :
    input = .line line := by
  cases input with
  | interrupt => cases h
  | line text =>
      rw [request?] at h
      split at h
      · cases h
      · cases h
        rfl

theorem Input.allBlank_of_request? {text : Text}
    (h : (Input.line text).request? = none) :
    Text.allBlank text = true := by
  rw [request?] at h
  split at h
  · assumption
  · cases h

theorem requests_cons_of_none {input : Input} (h : input.request? = none)
    (rest : List Input) :
    requests (input :: rest) = requests rest := by
  rw [requests, List.filterMap_cons_none h]
  rfl

theorem requests_cons_of_some {input : Input}
    {line : Text} (h : input.request? = some line) (rest : List Input) :
    requests (input :: rest) = line :: requests rest := by
  rw [requests, List.filterMap_cons_some h]
  rfl

/-- The setup without a prompt. -/
def Setup.quiet (setup : Setup) : Setup := { setup with prompt := [] }

namespace Shell

/-- Handles a line, unless it ends the run by itself: the shell after it, or how
the run ends. -/
def advance (setup : Setup) (shell : Shell) (line : Text) :
    Except (RunEnd × Shell) Shell :=
  if line = exitLine then
    .error (.status 0, shell)
  else
    match (shell.handleLine setup line).1.ending? with
    | none => .ok (shell.handleLine setup line).2
    | some ending => .error (ending, (shell.handleLine setup line).2)

/-- Handles lines in order, up to the first that ends the run. -/
def advanceAll (setup : Setup) (shell : Shell) (lines : List Text) :
    Except (RunEnd × Shell) Shell :=
  lines.foldlM (advance setup) shell

/-- Runs the shell as `run` does, but handles every line. -/
def runHandling (setup : Setup) : List Input → Shell → Run
  | [], shell => ⟨.status 0, 0, (shell.say setup.prompt).tell .inputEnded⟩
  | .interrupt :: rest, shell => runHandling setup rest (shell.say setup.prompt)
  | .line text :: rest, shell =>
    match (shell.say setup.prompt).handleLine setup text with
    | (.blank, after) => runHandling setup rest after
    | (.done outcome, after) =>
      if outcome.exitRequested then
        ⟨.status outcome.exitCode, rest.length, after⟩
      else runHandling setup rest after
    | (.failed failure, after) => ⟨.failed failure, rest.length, after⟩

variable {setup : Setup} {shell here : Shell}

@[simp] theorem say_nil (shell : Shell) : shell.say [] = shell := by
  rw [say, Console.write_nil]

@[simp] theorem say_quiet (setup : Setup) (shell : Shell) :
    shell.say setup.quiet.prompt = shell :=
  say_nil shell

theorem advanceAll_cons (line : Text) (rest : List Text) :
    advanceAll setup shell (line :: rest) =
      match advance setup shell line with
      | .ok after => advanceAll setup after rest
      | .error stopped => .error stopped := by
  rw [advanceAll, List.foldlM_cons]
  cases advance setup shell line with
  | ok after => rfl
  | error stopped => rfl

theorem handleLine_of_allBlank {line : Text} (h : Text.allBlank line = true) :
    shell.handleLine setup line = (.blank, shell) := by
  rw [handleLine, if_pos h]

theorem run_quiet_of_request? {input : Input} (h : input.request? = none)
    (rest : List Input) :
    run setup.quiet (input :: rest) shell = run setup.quiet rest shell := by
  cases input with
  | interrupt => rw [run, say_quiet]
  | line text =>
      have hblank := Input.allBlank_of_request? h
      have hexit : text ≠ exitLine := by
        rintro rfl
        cases hblank
      rw [run_line hexit, Visit.run, say_quiet, handleLine_of_allBlank hblank]
      rfl

/-- A line that asks for something is handled, and the run goes on or ends. -/
theorem run_quiet_line (text : Text) (rest : List Input) :
    run setup.quiet (.line text :: rest) shell =
      match advance setup.quiet shell text with
      | .ok after => run setup.quiet rest after
      | .error (ending, after) => ⟨ending, rest.length, after⟩ := by
  by_cases hexit : text = exitLine
  · rw [run, say_quiet, if_pos hexit, advance, if_pos hexit]
  · rw [run_line hexit, Visit.run, say_quiet, advance, if_neg hexit]
    cases (shell.handleLine setup.quiet text).1.ending? with
    | none => rfl
    | some ending => rfl

/-- Lines that do not end a run are handled, and the run goes on with what comes
after them. -/
theorem run_quiet_append {before : List Input}
    (h : advanceAll setup.quiet shell (requests before) = .ok here)
    (after : List Input) :
    run setup.quiet (before ++ after) shell = run setup.quiet after here := by
  induction before generalizing shell with
  | nil =>
      cases h
      rfl
  | cons input rest ih =>
      rw [List.cons_append]
      cases hrequest : input.request? with
      | none =>
          rw [requests_cons_of_none hrequest] at h
          rw [run_quiet_of_request? hrequest]
          exact ih h
      | some line =>
          rw [requests_cons_of_some hrequest, advanceAll_cons] at h
          rw [Input.eq_line_of_request? hrequest, run_quiet_line]
          cases hadvance : advance setup.quiet shell line with
          | error stopped =>
              rw [hadvance] at h
              cases h
          | ok next =>
              rw [hadvance] at h
              exact ih h

/-- Where requests end a run, the run comes to a first line that ends it. -/
theorem exists_of_advanceAll_error
    {inputs : List Input} {stopped : RunEnd × Shell}
    (h : advanceAll setup shell (requests inputs) = .error stopped) :
    ∃ before text rest here, inputs = before ++ .line text :: rest ∧
      advanceAll setup shell (requests before) = .ok here ∧
      advance setup here text = .error stopped := by
  induction inputs generalizing shell with
  | nil => cases h
  | cons input others ih =>
      cases hrequest : input.request? with
      | none =>
          rw [requests_cons_of_none hrequest] at h
          obtain ⟨before, text, rest, here, rfl, hbefore, htext⟩ := ih h
          refine ⟨input :: before, text, rest, here, rfl, ?_, htext⟩
          rw [requests_cons_of_none hrequest]
          exact hbefore
      | some line =>
          have hinput := Input.eq_line_of_request? hrequest
          rw [requests_cons_of_some hrequest, advanceAll_cons] at h
          cases hadvance : advance setup shell line with
          | error found =>
              rw [hadvance] at h
              cases h
              exact ⟨[], line, others,
                shell, by rw [hinput]; rfl, rfl, hadvance⟩
          | ok next =>
              rw [hadvance] at h
              obtain ⟨before, text, rest, here, rfl, hbefore, htext⟩ := ih h
              refine ⟨input :: before, text, rest, here, rfl, ?_, htext⟩
              rw [requests_cons_of_some hrequest, advanceAll_cons, hadvance]
              exact hbefore

/-- What comes after the line that ends a run is not read. -/
theorem run_quiet_of_advanceAll_error
    {before : List Input} {ending : RunEnd} {stopped : Shell}
    (h : advanceAll setup.quiet shell (requests before) =
      .error (ending, stopped)) :
    ∃ unread, ∀ after, run setup.quiet (before ++ after) shell =
      ⟨ending, unread + after.length, stopped⟩ := by
  obtain ⟨front, text, rest, here, rfl, hfront, htext⟩ :=
    exists_of_advanceAll_error h
  refine ⟨rest.length, fun after => ?_⟩
  rw [List.append_assoc, run_quiet_append hfront, List.cons_append,
    run_quiet_line, htext, List.length_append]

theorem runBuiltin_of_unredirected {command : Command}
    {builtin : Builtin} (hname : Builtin.ofName? command.name = some builtin)
    (hplain : command.redirections = []) :
    shell.runBuiltin command =
      shell.settle builtin
        (builtin.run shell.session shell.machine command.arguments) none := by
  simp only [runBuiltin, hname, hplain, Machine.openTargets, Streams.none]

theorem tellDirectory_of_ne {builtin : Builtin}
    (h : builtin ≠ .cd) (old : Path) (result : Except Failure Outcome) :
    shell.tellDirectory builtin old result = shell := by
  unfold tellDirectory
  split
  · exact absurd rfl h
  · rfl

theorem handleLine_of_attempt {after : Shell} {line : Text} {command : Command}
    {outcome : Outcome} (hblank : Text.allBlank line = false)
    (hline : Command.ofLine line = .ok command)
    (h : (shell.read command).attempt setup.policy command =
      (.ok outcome, after)) :
    shell.handleLine setup line = (.done outcome, after) := by
  rw [read] at h
  simp only [handleLine, hblank, hline, execute, h, Bool.false_eq_true,
    if_false]

/-- The line that ends a run by itself is a command, and asks for the end where
`exit` is a builtin. -/
theorem handleLine_exitLine (shell : Shell) (setup : Setup)
    (hexit : shell.session.isBuiltin Builtin.exit.name = true) :
    shell.handleLine setup exitLine =
      (.done ⟨Builtin.exit.name, .ok, 0, true⟩,
        (shell.tell (.lineRead Builtin.exit.name [['0']])).tell
          (.routed Builtin.exit.name .builtin)) := by
  have hblank : Text.allBlank exitLine = false := by decide
  have hline : Command.ofLine exitLine = .ok ⟨Builtin.exit.name, [['0']], []⟩ :=
    rfl
  have hroute : Command.route shell.session setup.policy ⟨Builtin.exit.name,
      [['0']], []⟩ =
      .builtin := by
    rw [Command.route, hexit]
    rfl
  have heffect : Builtin.exit.run shell.session shell.machine [['0']] =
      ⟨[], shell.session, .ok ⟨Builtin.exit.name, .ok, 0, true⟩⟩ := rfl
  refine handleLine_of_attempt hblank hline ?_
  simp only [attempt, read, tell_session, hroute]
  rw [runBuiltin_of_unredirected (Builtin.ofName?_name .exit) rfl,
    tell_session, tell_machine, tell_session, tell_machine, heffect,
    settle, tellDirectory_of_ne (by simp), say_nil, ← tell_session shell,
    ← tell_session (shell.tell _)]

theorem runHandling_line (text : Text) (rest : List Input) :
    runHandling setup (.line text :: rest) shell =
      match ((shell.say setup.prompt).handleLine setup text).1.ending? with
      | none => runHandling setup rest
          ((shell.say setup.prompt).handleLine setup text).2
      | some ending =>
        ⟨ending, rest.length,
          ((shell.say setup.prompt).handleLine setup text).2⟩ := by
  rw [runHandling]
  generalize (shell.say setup.prompt).handleLine setup text = handled
  obtain ⟨reply, after⟩ := handled
  cases reply with
  | blank => rfl
  | failed failure => rfl
  | done outcome => cases hexit :
      outcome.exitRequested <;> simp [Reply.ending?, hexit]

/-- Where `exit` is a builtin, handling the line that ends a run by itself makes
no difference but for what is told. -/
theorem runHandling_eq (setup : Setup) (inputs : List Input)
    (hexit : shell.session.isBuiltin Builtin.exit.name = true) :
    (runHandling setup inputs shell).ending = (run setup inputs shell).ending ∧
      (runHandling setup inputs shell).unread =
        (run setup inputs shell).unread ∧
      ∃ events : List Event, (runHandling setup inputs shell).shell =
        events.foldl tell (run setup inputs shell).shell := by
  induction inputs generalizing shell with
  | nil => exact ⟨rfl, rfl, [], rfl⟩
  | cons input rest ih =>
      cases input with
      | interrupt => exact ih hexit
      | line text =>
          rw [runHandling_line]
          by_cases htext : text = exitLine
          · subst htext
            rw [handleLine_exitLine (shell.say setup.prompt) setup hexit, run,
              if_pos rfl]
            exact ⟨rfl, rfl, [.lineRead Builtin.exit.name [['0']],
              .routed Builtin.exit.name .builtin], rfl⟩
          · obtain ⟨cwd, hcwd⟩ :=
              (shell.say setup.prompt).handleLine_session_eq setup text
            have hkept : ((shell.say setup.prompt).handleLine setup
                text).2.session.isBuiltin
                Builtin.exit.name = true := by
              rw [hcwd]
              exact hexit
            rw [run_line htext, Visit.run]
            cases ((shell.say setup.prompt).handleLine setup text).1.ending?
              with
            | none => exact ih hkept
            | some ending => exact ⟨rfl, rfl, [], rfl⟩

/-- A run without prompts is the fold of handling the lines that ask for
something: it ends with the first line that ends it, and reads nothing after it,
or else at the end of its inputs.  A run in which no line fails for good ends
with a status.  Inputs that ask for nothing change the number of unread inputs
at most, and only after the end.  Where `exit` is a builtin, it makes no
difference but for the journal if the line `exit 0` is handled like any other
one. -/
theorem run_eq_fold (setup : Setup) (inputs : List Input) (shell : Shell) :
    (match advanceAll setup.quiet shell (requests inputs) with
      | .ok after =>
          run setup.quiet inputs shell = ⟨.status 0, 0, after.tell .inputEnded⟩
      | .error (ending, after) => ∃ before text rest here,
          inputs = before ++ .line text :: rest ∧
          advanceAll setup.quiet shell (requests before) = .ok here ∧
          advance setup.quiet here text = .error (ending, after) ∧
          ∀ others, run setup.quiet (before ++ .line text :: others) shell =
            ⟨ending, others.length, after⟩) ∧
    ((∀ visit ∈ visits setup.quiet inputs shell, ∀ failure,
        (visit.shell.handleLine setup.quiet visit.line).1 ≠ .failed failure) →
      ∃ status, (run setup.quiet inputs shell).ending = .status status) ∧
    (∀ before other after, inputs = before ++ after →
      requests other = requests before →
      (run setup.quiet (other ++ after) shell).ending =
        (run setup.quiet inputs shell).ending ∧
      (run setup.quiet (other ++ after) shell).shell =
        (run setup.quiet inputs shell).shell ∧
      ((∃ here, advanceAll setup.quiet shell (requests before) = .ok here) →
        (run setup.quiet (other ++ after) shell).unread =
          (run setup.quiet inputs shell).unread)) ∧
    (shell.session.isBuiltin Builtin.exit.name = true →
      (runHandling setup inputs shell).ending =
        (run setup inputs shell).ending ∧
      (runHandling setup inputs shell).unread =
        (run setup inputs shell).unread ∧
      ∃ events : List Event, (runHandling setup inputs shell).shell =
        events.foldl tell (run setup inputs shell).shell) := by
  refine ⟨?_, fun hsurvives => ?_, ?_, runHandling_eq setup inputs⟩
  · cases hlines : advanceAll setup.quiet shell (requests inputs) with
    | ok after =>
        have hrun := run_quiet_append hlines []
        rw [List.append_nil] at hrun
        rw [hrun, run, say_quiet]
    | error stopped =>
        obtain ⟨before, text, rest, here, hinputs, hbefore, htext⟩ :=
          exists_of_advanceAll_error hlines
        refine ⟨before, text, rest, here, hinputs, hbefore, htext,
          fun others => ?_⟩
        rw [run_quiet_append hbefore, run_quiet_line, htext]
  · cases hending : (run setup.quiet inputs shell).ending with
    | status status => exact ⟨status, rfl⟩
    | failed failure =>
        obtain ⟨visit, hvisit, hfailed⟩ := run_failed_iff.1 hending
        exact absurd hfailed (hsurvives visit hvisit failure)
  · rintro before other after rfl hrequests
    cases hlines : advanceAll setup.quiet shell (requests before) with
    | ok here =>
        have hother := hlines
        rw [← hrequests] at hother
        rw [run_quiet_append hlines, run_quiet_append hother]
        exact ⟨rfl, rfl, fun _ => rfl⟩
    | error stopped =>
        have hother := hlines
        rw [← hrequests] at hother
        obtain ⟨unread, hrun⟩ := run_quiet_of_advanceAll_error hlines
        obtain ⟨otherUnread, hotherRun⟩ := run_quiet_of_advanceAll_error hother
        rw [hrun, hotherRun]
        refine ⟨rfl, rfl, ?_⟩
        rintro ⟨here, hhere⟩
        cases hhere

end Shell

end LineShell
