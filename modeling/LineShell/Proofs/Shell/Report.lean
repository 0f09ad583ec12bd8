import LineShell.Proofs.Shell.Cause
import LineShell.Proofs.Shell.Verdict
import LineShell.Proofs.Volume.Opening

/-!
What a report means: where a line makes the shell report a failure, nothing has
run.

Main statement: either one failure is reported, and then no more has happened
than that targets of redirections were opened; or nothing is reported, and then
the answer is that of a blank line, of a builtin or of a child program, or the
shell does not survive the line (`handleLine_report`).
-/
namespace LineShell

namespace Shell

/-- Whether a line starts a child program. -/
def Starts (shell : Shell) (policy : Policy) (line : Text) (child : Child) :
    Prop :=
  Text.allBlank line = false ∧
    ∃ command path machine, Command.ofLine line = .ok command ∧
    command.route shell.session policy = .external ∧
    shell.machine.findExecutable command.name shell.session.searchPath =
      .ok (some path) ∧
    shell.machine.openTargets shell.session.cwd .none command.redirections =
      (.ok child.streams, machine) ∧
    child.program =
      ⟨path, command.name :: command.arguments, shell.session.environment,
        shell.session.cwd⟩ ∧
    child.program.prepare machine child.streams.locations =
      .ok (child.machine, child.arguments)

/-- What the answer to a line can be where nothing is reported. -/
inductive Answers (shell : Shell) (policy : Policy) (line : Text) :
    Reply → Prop where
  | blank (hblank : Text.allBlank line = true) :
      Answers shell policy line .blank
  /-- The result of a builtin. -/
  | builtin {command : Command} {builtin : Builtin} {streams : Streams}
      {machine : Machine}
      {outcome : Outcome} (hline : Command.ofLine line = .ok command)
      (hroute : command.route shell.session policy = .builtin)
      (hname : Builtin.ofName? command.name = some builtin)
      (hopen : shell.machine.openTargets shell.session.cwd .none
        command.redirections =
        (.ok streams, machine))
      (hresult : (builtin.run shell.session machine command.arguments).result =
        .ok outcome) :
      Answers shell policy line (.done outcome)
  /-- The code of a child program. -/
  | child {command : Command} {child : Child}
      (hline : Command.ofLine line = .ok command)
      (hstarts : shell.Starts policy line child) :
      Answers shell policy line
        (.done (Outcome.ofChild command.name
          (shell.programs child shell.input).code))

/-- What a reported failure leaves of the machine: a line that is no command and
a name that is not found leave it as it is; otherwise targets of redirections
have been opened, in order, up to the first that could not be opened. -/
inductive Leaves (shell : Shell) (line : Text) : Failure → Machine → Prop where
  | malformed {error : LineError} (hline : Command.ofLine line = .error error) :
      Leaves shell line (.line error) shell.machine
  | notFound {command : Command} (hline : Command.ofLine line = .ok command) :
      Leaves shell line (.commandNotFound command.name) shell.machine
  | unopened {command : Command} {opened rest : List Redirection}
      {failed : Redirection}
      {refusal : Refusal} {machine : Machine}
      (hline : Command.ofLine line = .ok command)
      (hredirections : command.redirections = opened ++ failed :: rest)
      (htouches : Machine.Touches
        (Machine.aboveTargets shell.session.cwd (opened ++ [failed]))
        (Machine.targets shell.session.cwd opened) shell.machine machine) :
      Leaves shell line (.cannotOpen failed.target refusal) machine
  | opened {command : Command} {failure : Failure} {machine : Machine}
      (hline : Command.ofLine line = .ok command)
      (hfailure : failure = .homeNotSet ∨
        (∃ argument, failure = .noDirectory argument) ∨
        ∃ refusal, failure = .cannotStart command.name refusal)
      (htouches : Machine.Touches
        (Machine.aboveTargets shell.session.cwd command.redirections)
        (Machine.targets shell.session.cwd command.redirections) shell.machine
          machine) :
      Leaves shell line failure machine

/-- The shell after it has told what it is about to do with a line. -/
def announced (shell : Shell) (policy : Policy) (line : Text) : Shell :=
  match Command.ofLine line with
  | .error _ => shell
  | .ok command => (shell.read command).routed policy command

/-- One failure is reported for a line, and nothing has run. -/
structure Reports (shell : Shell) (setup : Setup) (line : Text)
    (failure : Failure) (machine : Machine) : Prop where
  messages : shell.messages setup line = [failure.message]
  reply : ∃ outcome, (shell.handleLine setup line).1 = .done outcome ∧
    outcome.status = .error ∧
    outcome.exitRequested = false ∧
    outcome.exitCode = if (Command.ofLine line).isOk then 1 else 2
  session : (shell.handleLine setup line).2.session = shell.session
  child : ∀ child, ¬ shell.Starts setup.policy line child
  leaves : shell.Leaves line failure machine
  /-- Apart from the machine, only the journal and the report are new. -/
  shell : (shell.handleLine setup line).2 =
    { shell.announced setup.policy line with machine := machine }.report
      setup.reporter
      failure.message

theorem announced_session (shell : Shell) (policy : Policy) (line : Text) :
    (shell.announced policy line).session = shell.session := by
  unfold announced
  split
  · rfl
  · exact (tell_session _ _).trans (tell_session _ _)

theorem announced_programs (shell : Shell) (policy : Policy) (line : Text) :
    (shell.announced policy line).programs = shell.programs := by
  unfold announced
  split
  · rfl
  · exact (tell_programs _ _).trans (tell_programs _ _)

theorem announced_input (shell : Shell) (policy : Policy) (line : Text) :
    (shell.announced policy line).input = shell.input := by
  unfold announced
  split
  · rfl
  · exact (tell_input _ _).trans (tell_input _ _)

/-- A failure that is judged and survived is reported. -/
theorem reports_of_judge {shell : Shell} {setup : Setup} {line : Text}
    {failure : Failure}
    {outcome : Outcome} {machine : Machine}
    (hjudge : shell.judge setup.policy line = (.failed failure outcome,
      { shell.announced setup.policy line with machine := machine }))
    (hreported : failure.isReported setup.policy.strictHome = true)
    (houtcome : outcome.status = .error ∧ outcome.exitRequested = false ∧
      outcome.exitCode = if (Command.ofLine line).isOk then 1 else 2)
    (hchild : ∀ child, ¬ shell.Starts setup.policy line child)
    (hleaves : shell.Leaves line failure machine) :
    shell.Reports setup line failure machine := by
  have hhandle : shell.handleLine setup line = (.done outcome,
      { shell.announced setup.policy line with machine := machine }.report
        setup.reporter
        failure.message) := by
    rw [handleLine_eq_answer, hjudge, answer, if_pos hreported]
  refine ⟨?_, ⟨outcome, ?_, houtcome⟩, ?_, hchild, hleaves, ?_⟩
  · rw [messages_eq, hjudge]
    exact if_pos hreported
  · rw [hhandle]
  · rw [hhandle, report_session]
    exact announced_session _ _ _
  · rw [hhandle]

theorem Starts.of_line {shell : Shell} {policy : Policy} {line : Text}
    {command : Command} {child : Child} (h : shell.Starts policy line child)
    (hline : Command.ofLine line = .ok command) :
    command.route shell.session policy = .external ∧ ∃ path machine,
      shell.machine.findExecutable command.name shell.session.searchPath =
        .ok (some path) ∧
      shell.machine.openTargets shell.session.cwd .none command.redirections =
        (.ok child.streams, machine) ∧
      child.program =
        ⟨path, command.name :: command.arguments, shell.session.environment,
          shell.session.cwd⟩ ∧
      child.program.prepare machine child.streams.locations =
        .ok (child.machine, child.arguments) := by
  obtain ⟨-, other, path, machine, hother, hroute, hfind, hopen, hprogram,
    hprepare⟩ := h
  rw [hline] at hother
  cases hother
  exact ⟨hroute, path, machine, hfind, hopen, hprogram, hprepare⟩

/-- What may come of a command: an answer, a failure that the shell does not
survive, or a failure before anything has run. -/
inductive Fate (shell : Shell) (policy : Policy) (line : Text) :
    Except Failure Outcome → Shell → Prop where
  | answers {outcome : Outcome} {after : Shell}
      (hanswers : shell.Answers policy line (.done outcome)) :
      Fate shell policy line (.ok outcome) after
  | unreported {failure : Failure} {after : Shell}
      (hunreported : failure.isReported policy.strictHome = false) :
      Fate shell policy line (.error failure) after
  | nothingRan {failure : Failure} {machine : Machine}
      (hchild : ∀ child, ¬ shell.Starts policy line child)
      (hleaves : shell.Leaves line failure machine) :
      Fate shell policy line (.error failure)
        { shell.announced policy line with machine := machine }

section Fates

variable {shell after : Shell} {policy : Policy} {line : Text}
  {command : Command} {result : Except Failure Outcome} {failure : Failure}
  {streams : Streams} {machine : Machine}

theorem not_starts_of_route (hline : Command.ofLine line = .ok command)
    (hroute : command.route shell.session policy = .builtin) (child : Child) :
    ¬ shell.Starts policy line child := by
  intro hstarts
  obtain ⟨hexternal, -⟩ := hstarts.of_line hline
  rw [hroute] at hexternal
  cases hexternal

/-- What is opened before a failure that comes later. -/
theorem leaves_of_openTargets (hline : Command.ofLine line = .ok command)
    (hopen : shell.machine.openTargets shell.session.cwd .none
      command.redirections =
      (.ok streams, machine))
    (hfailure : failure = .homeNotSet ∨
      (∃ argument, failure = .noDirectory argument) ∨
      ∃ refusal, failure = .cannotStart command.name refusal) :
    shell.Leaves line failure machine := by
  obtain ⟨opened, tried, hprogress, htouches⟩ :=
    shell.machine.openTargets_touches shell.session.cwd .none
      command.redirections
  rw [hopen] at hprogress htouches
  cases hprogress with
  | all => exact .opened hline hfailure htouches

/-- Nothing runs where a target cannot be opened, if the shell survives that. -/
theorem fate_of_openTargets_error (hline : Command.ofLine line = .ok command)
    (hopen : shell.machine.openTargets shell.session.cwd .none
      command.redirections =
      (.error failure, machine)) :
    shell.Fate policy line (.error failure)
      { shell.announced policy line with machine := machine } := by
  obtain ⟨opened, tried, hprogress, htouches⟩ :=
    shell.machine.openTargets_touches shell.session.cwd .none
      command.redirections
  rw [hopen] at hprogress htouches
  cases hprogress with
  | @upTo _ _ failed refusal hredirections =>
      by_cases hdeep : refusal = .tooDeep
      · rw [hdeep]
        exact .unreported rfl
      · refine .nothingRan (fun child hstarts => ?_) ?_
        · obtain ⟨-, path, opened, -, hopened, -⟩ := hstarts.of_line hline
          rw [hopen] at hopened
          cases hopened
        · rw [Failure.ofTarget_of_ne hdeep]
          exact .unopened hline hredirections htouches

/-- A builtin answers, unless it is `cd` or fails of a request to the system. -/
theorem fate_of_settle {builtin : Builtin}
    (hline : Command.ofLine line = .ok command)
    (hroute : command.route shell.session policy = .builtin)
    (hname : Builtin.ofName? command.name = some builtin)
    (hopen : shell.machine.openTargets shell.session.cwd .none
      command.redirections =
      (.ok streams, machine))
    (hsettle : { shell.announced policy line with machine := machine }.settle
      builtin
      (builtin.run shell.session machine command.arguments) streams.output =
        (result, after)) :
    shell.Fate policy line result after := by
  have hsettled := settle_result
      { shell.announced policy line with machine := machine } builtin
    (builtin.run shell.session machine command.arguments) streams.output
  rw [hsettle] at hsettled
  rcases hsettled with hsame | ⟨error, rfl⟩
  · cases hresult :
      (builtin.run shell.session machine command.arguments).result with
    | ok outcome =>
        obtain rfl : result = .ok outcome := hsame.trans hresult
        exact .answers (.builtin hline hroute hname hopen hresult)
    | error failure =>
        obtain rfl : result = .error failure := hsame.trans hresult
        have hfails := Builtin.result_eq_error_iff.1 hresult
        rcases hfails.refused_or_cd with ⟨refusal, rfl⟩ | ⟨rfl, hfailure⟩
        · exact .unreported rfl
        · have heffect :
              Builtin.cd.run shell.session machine command.arguments =
              ⟨[], shell.session, .error failure⟩ :=
                Builtin.runCd_eq_of_error hresult
          have hkept := (shell.announced_session policy line).symm
          rw [settle_of_error _ _ _ _
            (by rw [heffect]) (by rw [heffect]; exact hkept) hresult]
            at hsettle
          cases hsettle
          exact .nothingRan (not_starts_of_route hline hroute)
            (leaves_of_openTargets hline hopen (hfailure.imp_right Or.inl))
  · exact .unreported rfl

/-- A program that could be started answers with its code. -/
theorem fate_of_runProgram {path : Path} (hblank : Text.allBlank line = false)
    (hline : Command.ofLine line = .ok command)
    (hroute : command.route shell.session policy = .external)
    (hfind : shell.machine.findExecutable command.name
      shell.session.searchPath = .ok (some path))
    (hopen : shell.machine.openTargets shell.session.cwd .none
      command.redirections =
      (.ok streams, machine))
    (hrun : { shell.announced policy line with machine := machine }.runProgram
      command.name
      ⟨path, command.name :: command.arguments, shell.session.environment,
        shell.session.cwd⟩
      streams = (result, after)) :
    shell.Fate policy line result after := by
  cases hprepare : Program.prepare ⟨path, command.name :: command.arguments,
      shell.session.environment, shell.session.cwd⟩ machine streams.locations
      with
  | error refusal =>
      rw [runProgram_of_error hprepare] at hrun
      cases hrun
      refine .nothingRan (fun child hstarts => ?_)
        (leaves_of_openTargets hline hopen (Or.inr (Or.inr ⟨refusal, rfl⟩)))
      obtain ⟨-, other, opened, hfound, hopened, hprogram, hprepared⟩ :=
        hstarts.of_line hline
      rw [hfind] at hfound
      cases hfound
      cases hopen.symm.trans hopened
      rw [hprogram, hprepare] at hprepared
      cases hprepared
  | ok prepared =>
      obtain ⟨entered, arguments⟩ := prepared
      have hstarts :
          shell.Starts policy line ⟨_, entered, streams, arguments⟩ :=
        ⟨hblank, command, path, machine, hline, hroute, hfind, hopen, rfl,
          hprepare⟩
      have hanswers := Answers.child hline hstarts
      have hresult :=
        (congrArg Prod.fst hrun).symm.trans (runProgram_of_ok hprepare)
      dsimp only at hresult
      rw [announced_programs, announced_input] at hresult
      rw [hresult]
      exact .answers hanswers

/-- Every course of a command has one of these fates. -/
theorem Course.fate (hblank : Text.allBlank line = false)
    (hline : Command.ofLine line = .ok command)
    (h : (shell.read command).Course policy command result after) :
    shell.Fate policy line result after := by
  have hannounced : (shell.read command).routed policy command =
      shell.announced policy line := by
    rw [announced, hline]
  have hsession : (shell.read command).session = shell.session :=
    tell_session _ _
  have hmachine : (shell.read command).machine = shell.machine :=
    tell_machine _ _
  cases h with
  | unknown => exact .unreported rfl
  | builtinUnopened hroute hname hopen =>
      rw [hsession, hmachine] at hopen
      rw [hannounced]
      exact fate_of_openTargets_error hline hopen
  | builtin hroute hname hopen hsettle =>
      rw [hsession] at hroute hsettle
      rw [hsession, hmachine] at hopen
      rw [hannounced] at hsettle
      exact fate_of_settle hline hroute hname hopen hsettle
  | obscured => exact .unreported rfl
  | notFound hroute hfind =>
      have hkept : (shell.announced policy line).machine = shell.machine := by
        rw [← hannounced]
        exact (tell_machine _ _).trans hmachine
      rw [hsession, hmachine] at hfind
      rw [hannounced]
      have hnochild : ∀ child, ¬ shell.Starts policy line child := by
        intro child hstarts
        obtain ⟨-, path, machine, hfound, -⟩ := hstarts.of_line hline
        rw [hfind] at hfound
        cases hfound
      have hnothing := Fate.nothingRan hnochild (.notFound hline)
      rw [← hkept] at hnothing
      exact hnothing
  | programUnopened hroute hfind hopen =>
      rw [hsession, hmachine] at hopen
      rw [hannounced]
      exact fate_of_openTargets_error hline hopen
  | program hroute hfind hopen hrun =>
      rw [hsession] at hroute hrun
      rw [hsession, hmachine] at hfind hopen
      rw [hannounced] at hrun
      exact fate_of_runProgram hblank hline hroute hfind hopen hrun

end Fates

theorem handleLine_of_unreported {shell after : Shell}
    {setup : Setup} {line : Text} {failure : Failure} {outcome : Outcome}
    (hjudge : shell.judge setup.policy line = (.failed failure outcome, after))
    (hunreported : ¬ failure.isReported setup.policy.strictHome = true) :
    shell.messages setup line = [] ∧
    (shell.handleLine setup line).1 = .failed failure := by
  constructor
  · rw [messages_eq, hjudge]
    exact if_neg hunreported
  · rw [handleLine_eq_answer, hjudge, answer, if_neg hunreported]

/-- Where a line makes the shell report a failure, it reports one, and nothing
has run; otherwise the line is blank, or a builtin or a child program answers,
or the shell does not survive. -/
theorem handleLine_report (shell : Shell) (setup : Setup) (line : Text) :
    (∃ failure machine, shell.Reports setup line failure machine) ∨
      shell.messages setup line = [] ∧
        (shell.Answers setup.policy line (shell.handleLine setup line).1 ∨
          ∃ failure, (shell.handleLine setup line).1 = .failed failure) := by
  have hjudged := shell.judged_judge setup.policy line
  generalize hjudge : shell.judge setup.policy line = judged at hjudged
  obtain ⟨verdict, after⟩ := judged
  cases hjudged with
  | blank hblank =>
      refine Or.inr ⟨by rw [messages_eq, hjudge], Or.inl ?_⟩
      rw [handleLine_eq_answer, hjudge]
      exact .blank hblank
  | @malformed error hblank hline =>
      by_cases hreported :
        (Failure.line error).isReported setup.policy.strictHome = true
      · have hannounced : after.announced setup.policy line = after := by
            rw [announced, hline]
        have hmalformed : after.judge setup.policy line =
            (.failed (.line error) Outcome.malformed,
            { after.announced setup.policy line with
              machine := after.machine }) := by
          rw [hannounced]
          exact hjudge
        refine Or.inl ⟨.line error, after.machine,
          reports_of_judge hmalformed hreported
          ⟨rfl, rfl, by rw [hline]; rfl⟩ ?_ (.malformed hline)⟩
        rintro child ⟨-, command, _, _, hcommand, -⟩
        rw [hline] at hcommand
        cases hcommand
      · obtain ⟨hmessages, hreply⟩ := handleLine_of_unreported hjudge hreported
        exact Or.inr ⟨hmessages, Or.inr ⟨_, hreply⟩⟩
  | @command command result _ hblank hline hcourse =>
      cases hcourse.fate hblank hline with
      | answers hanswers =>
          refine Or.inr ⟨by rw [messages_eq, hjudge], Or.inl ?_⟩
          rw [handleLine_eq_answer, hjudge]
          exact hanswers
      | unreported hunreported =>
          obtain ⟨hmessages, hreply⟩ :=
            handleLine_of_unreported hjudge (Bool.eq_false_iff.1 hunreported)
          exact Or.inr ⟨hmessages, Or.inr ⟨_, hreply⟩⟩
      | @nothingRan failure machine hchild hleaves =>
          by_cases hreported : failure.isReported setup.policy.strictHome = true
          · exact Or.inl ⟨failure, machine, reports_of_judge hjudge hreported
              ⟨rfl, rfl, by rw [hline]; rfl⟩ hchild hleaves⟩
          · obtain ⟨hmessages, hreply⟩ :=
              handleLine_of_unreported hjudge hreported
            exact Or.inr ⟨hmessages, Or.inr ⟨failure, hreply⟩⟩

end Shell

end LineShell
