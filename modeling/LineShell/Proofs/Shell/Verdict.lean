import LineShell.Loop

/-!
What a line comes to, apart from telling it: handling a line is judging it and
then, if it failed, reporting the failure or giving up (`handleLine_eq_answer`).

The courses that a command can take are listed once (`Course`); what holds of
all of them is proved by cases.
-/
namespace LineShell

/-- What a line comes to before anything is reported. -/
inductive Verdict where
  | blank
  | done (outcome : Outcome)
  /-- A failure, and the outcome that stands for it once it is reported. -/
  | failed (failure : Failure) (outcome : Outcome)

/-- What the result of a command comes to. -/
def Verdict.ofResult (name : Text) : Except Failure Outcome → Verdict
  | .ok outcome => .done outcome
  | .error failure => .failed failure (Outcome.failed name)

namespace Shell

/-- The shell that has told who runs a command. -/
def routed (shell : Shell) (policy : Policy) (command : Command) : Shell :=
  shell.tell (.routed command.name (command.route shell.session policy))

/-- The courses that a command can take. -/
inductive Course (shell : Shell) (policy : Policy) (command : Command) :
    Except Failure Outcome → Shell → Prop where
  | unknown (hroute : command.route shell.session policy = .builtin)
      (hname : Builtin.ofName? command.name = none) :
      Course shell policy command (.error (.unknownBuiltin command.name))
        (shell.routed policy command)
  | builtinUnopened {builtin : Builtin} {failure : Failure} {machine : Machine}
      (hroute : command.route shell.session policy = .builtin)
      (hname : Builtin.ofName? command.name = some builtin)
      (hopen : shell.machine.openTargets shell.session.cwd .none
        command.redirections =
        (.error failure, machine)) :
      Course shell policy command (.error failure)
        { shell.routed policy command with machine := machine }
  | builtin {builtin : Builtin} {streams : Streams} {machine : Machine}
      {result : Except Failure Outcome} {after : Shell}
      (hroute : command.route shell.session policy = .builtin)
      (hname : Builtin.ofName? command.name = some builtin)
      (hopen : shell.machine.openTargets shell.session.cwd .none
        command.redirections =
        (.ok streams, machine))
      (hsettle : { shell.routed policy command with machine := machine }.settle
        builtin
        (builtin.run shell.session machine command.arguments) streams.output =
          (result, after)) :
      Course shell policy command result after
  | obscured {refusal : Refusal}
      (hroute : command.route shell.session policy = .external)
      (hfind : shell.machine.findExecutable command.name
        shell.session.searchPath =
        .error refusal) :
      Course shell policy command (.error (.refused refusal))
        (shell.routed policy command)
  | notFound (hroute : command.route shell.session policy = .external)
      (hfind : shell.machine.findExecutable command.name
        shell.session.searchPath = .ok none) :
      Course shell policy command (.error (.commandNotFound command.name))
        (shell.routed policy command)
  | programUnopened {path : Path} {failure : Failure} {machine : Machine}
      (hroute : command.route shell.session policy = .external)
      (hfind : shell.machine.findExecutable command.name
        shell.session.searchPath =
        .ok (some path))
      (hopen : shell.machine.openTargets shell.session.cwd .none
        command.redirections =
        (.error failure, machine)) :
      Course shell policy command (.error failure)
        { shell.routed policy command with machine := machine }
  | program {path : Path} {streams : Streams} {machine : Machine}
      {result : Except Failure Outcome} {after : Shell}
      (hroute : command.route shell.session policy = .external)
      (hfind : shell.machine.findExecutable command.name
        shell.session.searchPath =
        .ok (some path))
      (hopen : shell.machine.openTargets shell.session.cwd .none
        command.redirections =
        (.ok streams, machine))
      (hrun : { shell.routed policy command with machine := machine }.runProgram
        command.name
        ⟨path, command.name :: command.arguments, shell.session.environment,
          shell.session.cwd⟩
        streams = (result, after)) :
      Course shell policy command result after

/-- An attempt takes one of the courses. -/
theorem course_attempt (shell : Shell) (policy : Policy) (command : Command) :
    shell.Course policy command (shell.attempt policy command).1
      (shell.attempt policy command).2 := by
  have hsession : (shell.routed policy command).session = shell.session :=
    tell_session _ _
  have hmachine : (shell.routed policy command).machine = shell.machine :=
    tell_machine _ _
  unfold attempt
  cases hroute : command.route shell.session policy with
  | builtin =>
      simp only [← hroute]
      change shell.Course policy command
        ((shell.routed policy command).runBuiltin command).1
        ((shell.routed policy command).runBuiltin command).2
      fun_cases (shell.routed policy command).runBuiltin command with
      | case1 hname => exact .unknown hroute hname
      | case2 builtin hname failure machine hopen =>
          rw [hsession, hmachine] at hopen
          exact .builtinUnopened hroute hname hopen
      | case3 builtin hname streams machine hopen =>
          rw [hsession, hmachine] at hopen
          refine .builtin hroute hname hopen ?_
          rw [← hsession]
  | external =>
      simp only [← hroute]
      change shell.Course policy command
        ((shell.routed policy command).runExternal command).1
        ((shell.routed policy command).runExternal command).2
      fun_cases (shell.routed policy command).runExternal command with
      | case1 refusal hfind =>
          rw [hsession, hmachine] at hfind
          exact .obscured hroute hfind
      | case2 hfind =>
          rw [hsession, hmachine] at hfind
          exact .notFound hroute hfind
      | case3 path hfind failure machine hopen =>
          rw [hsession, hmachine] at hfind hopen
          exact .programUnopened hroute hfind hopen
      | case4 path hfind streams machine hopen =>
          rw [hsession, hmachine] at hfind hopen
          refine .program hroute hfind hopen ?_
          rw [← hsession]

@[simp] theorem tell_reported (shell : Shell) (event : Event) :
    (shell.tell event).reported = shell.reported := by
  unfold tell
  split <;> rfl

section Settling

variable (shell : Shell) (builtin : Builtin) (effect : Effect)
  (output : Option Handle) (old : Path) (result : Except Failure Outcome)

/-- Telling about the directory leaves all but the console as it is. -/
theorem tellDirectory_frame :
    (shell.tellDirectory builtin old result).session = shell.session ∧
      (shell.tellDirectory builtin old result).machine = shell.machine ∧
      (shell.tellDirectory builtin old result).reported = shell.reported := by
  unfold tellDirectory
  split <;> simp

/-- The effect of a builtin gives the session, and nothing is reported. -/
theorem settle_frame :
    (shell.settle builtin effect output).2.session = effect.session ∧
      (shell.settle builtin effect output).2.reported = shell.reported := by
  have hframe :=
    tellDirectory_frame { shell with session := effect.session } builtin
    shell.session.cwd effect.result
  fun_cases settle shell builtin effect output with
  | case1 changed => exact ⟨hframe.1, hframe.2.2⟩
  | case2 changed => exact ⟨hframe.1, hframe.2.2⟩
  | case3 changed => exact ⟨hframe.1, hframe.2.2⟩

/-- A refused write takes the place of the result of a builtin. -/
theorem settle_result :
    (shell.settle builtin effect output).1 = effect.result ∨
      ∃ error, (shell.settle builtin effect output).1 =
        .error (.refused (.system error)) := by
  fun_cases settle shell builtin effect output with
  | case1 => exact Or.inl rfl
  | case2 => exact Or.inl rfl
  | case3 changed handle error hwrite => exact Or.inr ⟨error, rfl⟩

/-- A failing builtin that writes nothing and keeps the session leaves the shell
as it is. -/
theorem settle_of_error {failure : Failure}
    (hwritten : effect.written = []) (hsession : effect.session = shell.session)
    (hresult : effect.result = .error failure) :
    shell.settle builtin effect output = (.error failure, shell) := by
  have htold : shell.tellDirectory builtin shell.session.cwd (.error failure) =
      shell := by
    unfold tellDirectory
    split
    · rename_i heq
      cases heq
    · rfl
  cases output with
  | none => simp only [settle, hwritten, hsession, hresult, htold, say,
      Console.write_nil]
  | some handle =>
      simp only [settle, hwritten, hsession, hresult, htold, Machine.write_nil]

end Settling

/-- Running a program leaves the session as it is, and nothing is reported. -/
theorem runProgram_frame (shell : Shell) (name : Text) (program : Program)
    (streams : Streams) :
    (shell.runProgram name program streams).2.session = shell.session ∧
      (shell.runProgram name program streams).2.reported = shell.reported := by
  fun_cases runProgram shell name program streams with
  | case1 => exact ⟨rfl, rfl⟩
  | case2 entered arguments hprepare started left =>
      exact ⟨(tell_session _ _).trans (tell_session _ _),
        (tell_reported _ _).trans (tell_reported _ _)⟩

theorem runProgram_of_error {shell : Shell}
    {name : Text} {program : Program} {streams : Streams} {refusal : Refusal}
    (h : program.prepare shell.machine streams.locations = .error refusal) :
    shell.runProgram name program streams =
      (.error (.cannotStart name refusal), shell) := by
  simp only [runProgram, h]

theorem runProgram_of_ok {shell : Shell} {name : Text} {program : Program}
    {streams : Streams} {entered : Machine} {arguments : List Text}
    (h : program.prepare shell.machine streams.locations =
      .ok (entered, arguments)) :
    (shell.runProgram name program streams).1 = .ok (Outcome.ofChild name
      (shell.programs ⟨program, entered, streams, arguments⟩
        shell.input).code) := by
  simp only [runProgram, h]

namespace Course

variable {shell after : Shell} {policy : Policy} {command : Command}
  {result : Except Failure Outcome}

/-- No course reports anything. -/
theorem reported_eq (h : shell.Course policy command result after) :
    after.reported = shell.reported := by
  have hrouted : (shell.routed policy command).reported = shell.reported :=
    tell_reported _ _
  cases h with
  | unknown => exact hrouted
  | builtinUnopened => exact hrouted
  | @builtin builtin streams machine _ _ hroute hname hopen hsettle =>
      have hframe := settle_frame
          { shell.routed policy command with machine := machine } builtin
        (builtin.run shell.session machine command.arguments) streams.output
      rw [hsettle] at hframe
      exact hframe.2.trans hrouted
  | obscured => exact hrouted
  | notFound => exact hrouted
  | programUnopened => exact hrouted
  | @program path streams machine _ _ hroute hfind hopen hrun =>
      have hframe :=
        runProgram_frame { shell.routed policy command with machine := machine }
        command.name
        ⟨path, command.name :: command.arguments, shell.session.environment,
          shell.session.cwd⟩
        streams
      rw [hrun] at hframe
      exact hframe.2.trans hrouted

/-- No course changes more of the session than the current directory. -/
theorem session_eq (h : shell.Course policy command result after) :
    ∃ cwd, after.session = { shell.session with cwd := cwd } := by
  have hrouted : (shell.routed policy command).session = shell.session :=
    tell_session _ _
  cases h with
  | unknown => exact ⟨shell.session.cwd, hrouted⟩
  | builtinUnopened => exact ⟨shell.session.cwd, hrouted⟩
  | @builtin builtin streams machine _ _ hroute hname hopen hsettle =>
      have hframe := settle_frame
          { shell.routed policy command with machine := machine } builtin
        (builtin.run shell.session machine command.arguments) streams.output
      rw [hsettle] at hframe
      rcases builtin.run_session shell.session machine command.arguments
        with hsame | ⟨cwd, -, hcwd⟩
      · exact ⟨shell.session.cwd, hframe.1.trans hsame⟩
      · exact ⟨cwd, hframe.1.trans hcwd⟩
  | obscured => exact ⟨shell.session.cwd, hrouted⟩
  | notFound => exact ⟨shell.session.cwd, hrouted⟩
  | programUnopened => exact ⟨shell.session.cwd, hrouted⟩
  | @program path streams machine _ _ hroute hfind hopen hrun =>
      have hframe :=
        runProgram_frame { shell.routed policy command with machine := machine }
        command.name
        ⟨path, command.name :: command.arguments, shell.session.environment,
          shell.session.cwd⟩
        streams
      rw [hrun] at hframe
      exact ⟨shell.session.cwd, hframe.1.trans hrouted⟩

end Course

def judge (shell : Shell) (policy : Policy) (line : Text) : Verdict × Shell :=
  if Text.allBlank line then
    (.blank, shell)
  else
    match Command.ofLine line with
    | .error error => (.failed (.line error) Outcome.malformed, shell)
    | .ok command =>
      let (result, after) :=
        (shell.tell (.lineRead command.name command.arguments)).attempt policy
          command
      (.ofResult command.name result, after)

/-- Answers with a verdict, after reporting a failure that the shell
survives. -/
def answer (shell : Shell) (setup : Setup) : Verdict → Reply × Shell
  | .blank => (.blank, shell)
  | .done outcome => (.done outcome, shell)
  | .failed failure outcome =>
    if failure.isReported setup.policy.strictHome then
      (.done outcome, shell.report setup.reporter failure.message)
    else
      (.failed failure, shell)

/-- Handling a line is judging it and answering. -/
theorem handleLine_eq_answer (shell : Shell) (setup : Setup) (line : Text) :
    shell.handleLine setup line =
      (shell.judge setup.policy line).2.answer setup
        (shell.judge setup.policy line).1 := by
  unfold handleLine judge
  split
  · rfl
  · cases Command.ofLine line with
    | error error => rfl
    | ok command =>
        simp only [execute]
        generalize (shell.tell (.lineRead command.name
          command.arguments)).attempt setup.policy
          command = attempted
        obtain ⟨failure | outcome, after⟩ := attempted
        · by_cases hreported : failure.isReported setup.policy.strictHome = true
          · simp only [Verdict.ofResult, answer, if_pos hreported]
          · simp only [Verdict.ofResult, answer, if_neg hreported]
        · rfl

/-- The shell that has told that a command was read. -/
def read (shell : Shell) (command : Command) : Shell :=
  shell.tell (.lineRead command.name command.arguments)

/-- What judging a line can come to. -/
inductive Judged (shell : Shell) (policy : Policy) (line : Text) :
    Verdict → Shell → Prop where
  | blank (hblank : Text.allBlank line = true) :
      Judged shell policy line .blank shell
  | malformed {error : LineError} (hblank : Text.allBlank line = false)
      (hline : Command.ofLine line = .error error) :
      Judged shell policy line (.failed (.line error) Outcome.malformed) shell
  | command {command : Command} {result : Except Failure Outcome}
      {after : Shell}
      (hblank : Text.allBlank line = false)
      (hline : Command.ofLine line = .ok command)
      (hcourse : (shell.read command).Course policy command result after) :
      Judged shell policy line (.ofResult command.name result) after

theorem judged_judge (shell : Shell) (policy : Policy) (line : Text) :
    shell.Judged policy line (shell.judge policy line).1
      (shell.judge policy line).2 := by
  fun_cases judge shell policy line with
  | case1 hblank => exact .blank hblank
  | case2 hblank error hline =>
      exact .malformed (Bool.eq_false_iff.2 hblank) hline
  | case3 hblank command hline result after hattempt =>
      have hcourse := course_attempt (shell.read command) policy command
      rw [read, hattempt] at hcourse
      exact .command (Bool.eq_false_iff.2 hblank) hline hcourse

/-- Judging a line reports nothing. -/
theorem Judged.reported_eq {shell after : Shell} {policy : Policy} {line : Text}
    {verdict : Verdict} (h : shell.Judged policy line verdict after) :
    after.reported = shell.reported := by
  cases h with
  | blank => rfl
  | malformed => rfl
  | command hblank hline hcourse =>
      exact hcourse.reported_eq.trans (tell_reported _ _)

/-- Judging a line changes no more of the session than the current directory. -/
theorem Judged.session_eq {shell after : Shell} {policy : Policy} {line : Text}
    {verdict : Verdict} (h : shell.Judged policy line verdict after) :
    ∃ cwd, after.session = { shell.session with cwd := cwd } := by
  cases h with
  | blank => exact ⟨shell.session.cwd, rfl⟩
  | malformed => exact ⟨shell.session.cwd, rfl⟩
  | command hblank hline hcourse =>
      obtain ⟨cwd, hcwd⟩ := hcourse.session_eq
      rw [read, tell_session] at hcwd
      exact ⟨cwd, hcwd⟩

/-- Whether a line fails: it is no command, or its command fails. -/
def Fails (shell : Shell) (policy : Policy) (line : Text) (failure : Failure) :
    Prop :=
  Text.allBlank line = false ∧
    ((∃ error, Command.ofLine line = .error error ∧ failure = .line error) ∨
      ∃ command, Command.ofLine line = .ok command ∧
        ((shell.read command).attempt policy command).1 = .error failure)

theorem fails_iff {shell : Shell} {policy : Policy} {line : Text}
    {failure : Failure} :
    shell.Fails policy line failure ↔
      ∃ outcome, (shell.judge policy line).1 = .failed failure outcome := by
  fun_cases judge shell policy line with
  | case1 hblank =>
      constructor
      · rintro ⟨hnot, -⟩
        rw [hblank] at hnot
        cases hnot
      · rintro ⟨outcome, h⟩
        cases h
  | case2 hblank error hline =>
      constructor
      · rintro ⟨-, ⟨other, hother, rfl⟩ | ⟨command, hcommand, -⟩⟩
        · rw [hline] at hother
          cases hother
          exact ⟨_, rfl⟩
        · rw [hline] at hcommand
          cases hcommand
      · rintro ⟨outcome, h⟩
        cases h
        exact ⟨Bool.eq_false_iff.2 hblank, Or.inl ⟨error, hline, rfl⟩⟩
  | case3 hblank command hline result after hattempt =>
      have hresult : ((shell.read command).attempt policy command).1 = result :=
        congrArg Prod.fst hattempt
      constructor
      · rintro ⟨-, ⟨other, hother, -⟩ | ⟨other, hother, hfailure⟩⟩
        · rw [hline] at hother
          cases hother
        · rw [hline] at hother
          cases hother
          rw [← hresult, hfailure]
          exact ⟨_, rfl⟩
      · rintro ⟨outcome, h⟩
        refine ⟨Bool.eq_false_iff.2 hblank,
          Or.inr ⟨command, hline, hresult.trans ?_⟩⟩
        cases result with
        | ok outcome => cases h
        | error other =>
            cases h
            rfl

/-- A failing line asks for no end. -/
theorem exitRequested_of_judge {shell : Shell}
    {policy : Policy} {line : Text} {failure : Failure} {outcome : Outcome}
    (h : (shell.judge policy line).1 = .failed failure outcome) :
    outcome.exitRequested = false := by
  have hjudged := shell.judged_judge policy line
  rw [h] at hjudged
  generalize (shell.judge policy line).2 = after at hjudged
  generalize hverdict : Verdict.failed failure outcome = verdict at hjudged
  cases hjudged with
  | blank => cases hverdict
  | malformed =>
      cases hverdict
      rfl
  | @command command result _ hblank hline hcourse =>
      cases result with
      | ok outcome => cases hverdict
      | error other =>
          cases hverdict
          rfl

/-- Handling a line changes no more of the session than the current
directory. -/
theorem handleLine_session_eq (shell : Shell) (setup : Setup) (line : Text) :
    ∃ cwd, (shell.handleLine setup line).2.session =
      { shell.session with cwd := cwd } := by
  obtain ⟨cwd, hcwd⟩ := (shell.judged_judge setup.policy line).session_eq
  have hanswer : ((shell.judge setup.policy line).2.answer setup
      (shell.judge setup.policy line).1).2.session =
        (shell.judge setup.policy line).2.session := by
    cases (shell.judge setup.policy line).1 with
    | blank => rfl
    | done outcome => rfl
    | failed failure outcome =>
        simp only [answer]
        split
        · exact report_session _ _ _
        · rfl
  exact ⟨cwd, by rw [handleLine_eq_answer, hanswer, hcwd]⟩

def messages (shell : Shell) (setup : Setup) (line : Text) : List Text :=
  (shell.handleLine { setup with reporter := .collected } line).2.reported.drop
    shell.reported.length

/-- One message is reported if a line fails in a way that the shell survives,
and none otherwise. -/
theorem messages_eq (shell : Shell) (setup : Setup) (line : Text) :
    shell.messages setup line =
      match (shell.judge setup.policy line).1 with
      | .failed failure _ =>
          if failure.isReported setup.policy.strictHome then [failure.message]
          else []
      | _ => [] := by
  have hreported := (shell.judged_judge setup.policy line).reported_eq
  unfold messages
  rw [handleLine_eq_answer]
  cases (shell.judge setup.policy line).1 with
  | blank => simp [answer, hreported]
  | done outcome => simp [answer, hreported]
  | failed failure outcome =>
      by_cases h : failure.isReported setup.policy.strictHome = true
      · simp [answer, h, report, hreported]
      · simp [answer, h, hreported]

end Shell

end LineShell
