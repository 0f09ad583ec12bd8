import LineShell.Proofs.Shell.Cause
import LineShell.Proofs.Shell.Printing
import LineShell.Proofs.Shell.Survival

/-!
Commands that are executed one after the other.

Main statement: only a `cd` that succeeds changes the session, and of it only
the current directory, which is then an existing directory in normal form
(`session_of_mem_history`).
-/
namespace LineShell

/-- A command with the setup and the shell that executes it. -/
structure Execution where
  shell : Shell
  setup : Setup
  command : Command

namespace Execution

def result (execution : Execution) : Except Failure Outcome :=
  (execution.shell.execute execution.setup execution.command).1

def after (execution : Execution) : Shell :=
  (execution.shell.execute execution.setup execution.command).2

end Execution

namespace Shell

/-- Executes commands in order, each under a setup of its own. -/
def executeAll (commands : List (Setup × Command)) (shell : Shell) : Shell :=
  commands.foldl (fun shell command => (shell.execute command.1 command.2).2)
    shell

/-- The executions of commands in order. -/
def history : List (Setup × Command) → Shell → List Execution
  | [], _ => []
  | (setup, command) :: rest, shell =>
    ⟨shell, setup, command⟩ :: history rest (shell.execute setup command).2

variable {shell after : Shell} {policy : Policy} {setup : Setup}
  {command : Command} {result : Except Failure Outcome}

/-- What executing a command makes of an attempt. -/
theorem execute_cases (shell : Shell) (setup : Setup) (command : Command) :
    (∃ outcome, (shell.attempt setup.policy command).1 = .ok outcome ∧
      shell.execute setup command =
        (.ok outcome, (shell.attempt setup.policy command).2)) ∨
    ∃ failure, (shell.attempt setup.policy command).1 = .error failure ∧
      shell.execute setup command =
        if failure.isReported setup.policy.strictHome then
          (.ok (Outcome.failed command.name), (shell.attempt setup.policy
            command).2.report setup.reporter failure.message)
        else
          (.error failure, (shell.attempt setup.policy command).2) := by
  unfold execute
  generalize shell.attempt setup.policy command = attempted
  obtain ⟨failure | outcome, after⟩ := attempted
  · exact Or.inr ⟨failure, rfl, rfl⟩
  · exact Or.inl ⟨outcome, rfl, rfl⟩

theorem execute_session (shell : Shell) (setup : Setup) (command : Command) :
    (shell.execute setup command).2.session =
      (shell.attempt setup.policy command).2.session := by
  rcases shell.execute_cases setup command
    with ⟨outcome, -, h⟩ | ⟨failure, -, h⟩
  · rw [h]
  · rw [h]
    split
    · exact report_session _ _ _
    · rfl

theorem execute_machine (shell : Shell) (setup : Setup) (command : Command) :
    (shell.execute setup command).2.machine =
      (shell.attempt setup.policy command).2.machine := by
  rcases shell.execute_cases setup command
    with ⟨outcome, -, h⟩ | ⟨failure, -, h⟩
  · rw [h]
  · rw [h]
    split
    · exact report_machine _ _ _
    · rfl

/-- A failure that is reported does not count as success. -/
theorem attempt_of_execute
    {outcome : Outcome} (h : (shell.execute setup command).1 = .ok outcome)
    (hstatus : outcome.status = .ok) :
    (shell.attempt setup.policy command).1 = .ok outcome := by
  rcases shell.execute_cases setup command
    with ⟨other, hattempt, hexecute⟩ | ⟨failure, -, hexecute⟩
  · rw [hexecute] at h
    rw [hattempt, ← h]
  · rw [hexecute] at h
    split at h
    · cases h
      cases hstatus
    · cases h

/-- A builtin that writes nothing leaves the machine as it is, and its result
stands. -/
theorem settle_of_written_nil {builtin : Builtin} {effect : Effect}
    (h : effect.written = []) (output : Option Handle) :
    (shell.settle builtin effect output).1 = effect.result ∧
      (shell.settle builtin effect output).2.machine = shell.machine := by
  cases output with
  | none => exact shell.settle_none builtin effect
  | some handle =>
      have hwrite : shell.machine.write handle effect.written =
          .ok (handle, shell.machine) := by
        rw [h, Machine.write_nil]
      exact shell.settle_of_write hwrite

/-- What `cd` comes to: it changes the current directory to its target, if that
is a directory, or it fails and has done nothing. -/
theorem cd_run_cases (session : Session) (machine : Machine)
    (arguments : List Text) :
    (∃ path, session.target? (Text.joinWith [' '] arguments) = some path ∧
      machine.isDirectory path = .ok true ∧
      Builtin.cd.run session machine arguments =
        ⟨[], { session with cwd := path },
          .ok (Outcome.success Builtin.cd.name)⟩) ∨
    ∃ failure, Builtin.cd.run session machine arguments =
      ⟨[], session, .error failure⟩ := by
  cases hresult : (Builtin.runCd session machine arguments).result with
  | error failure => exact Or.inr ⟨failure, Builtin.runCd_eq_of_error hresult⟩
  | ok outcome =>
      cases htarget : session.target? (Text.joinWith [' '] arguments) with
      | none =>
          simp only [Builtin.runCd, htarget] at hresult
          cases hresult
      | some path =>
          rw [Builtin.run, Builtin.runCd_eq htarget]
          rw [Builtin.runCd_eq htarget] at hresult
          cases hdirectory : machine.isDirectory path with
          | error refusal =>
              rw [hdirectory] at hresult
              cases hresult
          | ok found =>
              rw [hdirectory] at hresult
              cases found with
              | false => cases hresult
              | true => exact Or.inl ⟨path, rfl, hdirectory, rfl⟩

theorem cd_run_written (session : Session) (machine : Machine)
    (arguments : List Text) :
    (Builtin.cd.run session machine arguments).written = [] := by
  rcases cd_run_cases session machine arguments
    with ⟨path, -, -, heffect⟩ | ⟨failure, heffect⟩
  · rw [heffect]
  · rw [heffect]

/-- Whether a command is a `cd` that runs inside the shell. -/
def IsCd (session : Session) (policy : Policy) (command : Command) : Prop :=
  command.route session policy = .builtin ∧ command.name = Builtin.cd.name

/-- Whether a command has changed the current directory to the one that its
arguments mean. -/
structure ChangesDirectory (shell : Shell) (policy : Policy) (command : Command)
    (result : Except Failure Outcome) (after : Shell) (path : Path) : Prop where
  isCd : IsCd shell.session policy command
  result : result = .ok (Outcome.success Builtin.cd.name)
  target :
    shell.session.target? (Text.joinWith [' '] command.arguments) = some path
  session : after.session = { shell.session with cwd := path }
  directory : after.machine.isDirectory path = .ok true

theorem changesDirectory_of_settle {streams : Streams} {machine : Machine}
    (hroute : command.route shell.session policy = .builtin)
    (hname : Builtin.ofName? command.name = some .cd)
    (hsettle : { shell.routed policy command with machine := machine }.settle
      .cd
      (Builtin.cd.run shell.session machine command.arguments) streams.output =
        (result, after)) :
    (after.session = shell.session ∧ ∃ failure, result = .error failure) ∨
      ∃ path, ChangesDirectory shell policy command result after path := by
  have hcd : IsCd shell.session policy command :=
    ⟨hroute, (Builtin.name_eq_of_ofName? hname).symm⟩
  have hwritten := cd_run_written shell.session machine command.arguments
  obtain ⟨hresult, hmachine⟩ := @settle_of_written_nil
    { shell.routed policy command with machine := machine } .cd _ hwritten
      streams.output
  have hsession :=
    (settle_frame { shell.routed policy command with machine := machine } .cd
    (Builtin.cd.run shell.session machine command.arguments) streams.output).1
  rw [hsettle] at hresult hmachine hsession
  rcases cd_run_cases shell.session machine command.arguments with
    ⟨path, htarget, hdirectory, heffect⟩ | ⟨failure, heffect⟩
  · rw [heffect] at hresult hsession
    have hkept : after.machine = machine := hmachine
    exact Or.inr ⟨path, hcd, hresult, htarget, hsession, hkept ▸ hdirectory⟩
  · rw [heffect] at hresult hsession
    exact Or.inl ⟨hsession, failure, hresult⟩

/-- A command leaves the session as it is, unless it is a `cd` that succeeds. -/
theorem Course.session_cases (h : shell.Course policy command result after) :
    (after.session = shell.session ∧
      ∀ outcome, result = .ok outcome → ¬ IsCd shell.session policy command) ∨
    ∃ path, ChangesDirectory shell policy command result after path := by
  have hrouted : (shell.routed policy command).session = shell.session :=
    tell_session _ _
  cases h with
  | unknown => exact Or.inl ⟨hrouted, by simp⟩
  | builtinUnopened => exact Or.inl ⟨hrouted, by simp⟩
  | obscured => exact Or.inl ⟨hrouted, by simp⟩
  | notFound => exact Or.inl ⟨hrouted, by simp⟩
  | programUnopened => exact Or.inl ⟨hrouted, by simp⟩
  | @program path streams machine _ _ hroute hfind hopen hrun =>
      have hframe :=
        runProgram_frame { shell.routed policy command with machine := machine }
        command.name
        ⟨path, command.name :: command.arguments, shell.session.environment,
          shell.session.cwd⟩
        streams
      rw [hrun] at hframe
      refine Or.inl ⟨hframe.1.trans hrouted, ?_⟩
      rintro _ _ ⟨hbuiltin, -⟩
      rw [hroute] at hbuiltin
      cases hbuiltin
  | @builtin builtin streams machine _ _ hroute hname hopen hsettle =>
      by_cases hcd : builtin = .cd
      · subst hcd
        rcases changesDirectory_of_settle hroute hname hsettle
          with ⟨hsame, failure, rfl⟩ | hchanges
        · exact Or.inl ⟨hsame, by simp⟩
        · exact Or.inr hchanges
      · have hsession :=
          (settle_frame { shell.routed policy command with machine := machine }
          builtin (builtin.run shell.session machine command.arguments)
            streams.output).1
        rw [hsettle] at hsession
        rcases builtin.run_session shell.session machine command.arguments
          with hsame | ⟨cwd, h, -⟩
        · refine Or.inl ⟨hsession.trans hsame, ?_⟩
          rintro _ _ ⟨-, hcommand⟩
          rw [hcommand, Builtin.ofName?_name] at hname
          exact hcd (Option.some.inj hname).symm
        · exact absurd h hcd

end Shell

namespace Path

/-- Whether a text spells an absolute path in normal form: one slash or two, and
names between slashes, none of which is empty, a dot or two dots. -/
def IsNormalText (text : Text) : Prop :=
  ∃ slashes names, (slashes = ['/'] ∨ slashes = ['/', '/']) ∧
    text = slashes ++ Text.joinWith ['/'] names ∧
    ∀ name ∈ names, name ≠ [] ∧ name ≠ ['.'] ∧ name ≠ ['.', '.'] ∧ '/' ∉ name

theorem isNormalText_toText {path : Path} (hnormal : path.IsNormal)
    (habsolute : path.isAbsolute = true) : IsNormalText path.toText := by
  obtain ⟨hproper, ups, names, hparts, hnames, hups⟩ := hnormal
  have hnoUps : path.parts = names := by simpa [hups habsolute] using hparts
  refine ⟨rootText path.root, path.parts, ?_, ?_, fun name hname => ?_⟩
  · obtain ⟨root, parts⟩ := path
    cases root with
    | relative => cases habsolute
    | single => exact Or.inl rfl
    | double => exact Or.inr rfl
  · obtain ⟨root, parts⟩ := path
    cases root with
    | relative => cases habsolute
    | single => rfl
    | double => rfl
  · obtain ⟨hpiece, hslash⟩ := hproper name hname
    have hup : name ≠ up := by
      rintro rfl
      rw [hnoUps] at hname
      exact hnames hname
    simp only [isName, Bool.not_eq_true', Bool.or_eq_false_iff,
      decide_eq_false_iff_not] at hpiece
    exact ⟨hpiece.1, hpiece.2, hup, hslash⟩

end Path

namespace Execution

variable {execution : Execution}

def IsSuccessfulCd (execution : Execution) : Prop :=
  Shell.IsCd execution.shell.session execution.setup.policy execution.command ∧
    ∃ outcome, execution.result = .ok outcome ∧ outcome.status = .ok

/-- A command leaves the session as it is, or it is a `cd` that succeeds. -/
theorem session_cases (execution : Execution) :
    (execution.after.session = execution.shell.session ∧
      ¬ execution.IsSuccessfulCd) ∨
      ∃ path, Shell.ChangesDirectory execution.shell execution.setup.policy
        execution.command
        execution.result execution.after path := by
  have hcourse :=
    execution.shell.course_attempt execution.setup.policy execution.command
  have hsession :=
    execution.shell.execute_session execution.setup execution.command
  have hmachine :=
    execution.shell.execute_machine execution.setup execution.command
  rcases hcourse.session_cases with ⟨hsame, hnot⟩ | ⟨path, hchanges⟩
  · refine Or.inl ⟨hsession.trans hsame, ?_⟩
    rintro ⟨hcd, outcome, hresult, hstatus⟩
    exact hnot outcome (Shell.attempt_of_execute hresult hstatus) hcd
  · have hresult :
        execution.result = .ok (Outcome.success Builtin.cd.name) := by
      rcases execution.shell.execute_cases execution.setup execution.command
        with
        ⟨outcome, hattempt, hexecute⟩ | ⟨failure, hattempt, -⟩
      · rw [hchanges.result] at hattempt
        rw [result, hexecute, hattempt]
      · rw [hchanges.result] at hattempt
        cases hattempt
    refine Or.inr ⟨path, hchanges.isCd, hresult, hchanges.target, ?_, ?_⟩
    · exact hsession.trans hchanges.session
    · rw [after, hmachine]
      exact hchanges.directory

/-- From an absolute current directory, a command keeps it absolute and proper;
one that is a `cd` and succeeds leaves an existing directory in normal form. -/
theorem isNormal_after
    (habsolute : execution.shell.session.cwd.isAbsolute = true)
    (hproper : execution.shell.session.cwd.IsProper) :
    execution.after.session.cwd.isAbsolute = true ∧
    execution.after.session.cwd.IsProper ∧
      (execution.IsSuccessfulCd →
        Path.IsNormalText execution.after.session.cwd.toText ∧
          execution.after.machine.isDirectory execution.after.session.cwd =
            .ok true) := by
  rcases execution.session_cases with ⟨hsame, hnot⟩ | ⟨path, hchanges⟩
  · rw [hsame]
    exact ⟨habsolute, hproper, fun h => absurd h hnot⟩
  · have hpath : execution.after.session.cwd = path := by rw [hchanges.session]
    have hnormal := Session.isNormal_of_target? hproper hchanges.target
    have habsolutePath :=
      Session.isAbsolute_of_target? habsolute hchanges.target
    rw [hpath]
    exact ⟨habsolutePath, hnormal.1, fun _ =>
      ⟨Path.isNormalText_toText hnormal habsolutePath, hchanges.directory⟩⟩

end Execution

namespace Shell

/-- What every command preserves holds of every shell in a history. -/
theorem history_preserves {holds : Shell → Prop}
    (hstep : ∀ execution : Execution, holds execution.shell →
      holds execution.after) {commands : List (Setup × Command)}
    {shell : Shell} (hshell : holds shell) {execution : Execution}
    (h : execution ∈ history commands shell) : holds execution.shell := by
  induction commands generalizing shell with
  | nil => cases h
  | cons command rest ih =>
      obtain ⟨setup, command⟩ := command
      rcases List.mem_cons.1 h with rfl | h
      · exact hshell
      · exact ih (hstep ⟨shell, setup, command⟩ hshell) h

/-- Whether a session differs from another one in the current directory at most,
which is absolute and proper. -/
structure Follows (first later : Session) : Prop where
  builtinNames : later.builtinNames = first.builtinNames
  environment : later.environment = first.environment
  absolute : later.cwd.isAbsolute = true
  proper : later.cwd.IsProper

theorem Follows.step {first : Session}
    {execution : Execution} (h : Follows first execution.shell.session) :
    Follows first execution.after.session := by
  obtain ⟨habsolute, hproper, -⟩ := execution.isNormal_after h.absolute h.proper
  rcases execution.session_cases with ⟨hsame, -⟩ | ⟨path, hchanges⟩
  · rw [hsame]
    exact h
  · refine ⟨?_, ?_, habsolute, hproper⟩
    · rw [hchanges.session]
      exact h.builtinNames
    · rw [hchanges.session]
      exact h.environment

/-- From an absolute directory, whatever commands are executed, the builtins and
the environment stay the same, the current directory is changed by a `cd` that
succeeds inside the shell only, and after each of these it is an existing
directory, absolute and in normal form. -/
theorem session_of_mem_history (commands : List (Setup × Command))
    (shell : Shell) (habsolute : shell.session.cwd.isAbsolute = true)
    (hproper : shell.session.cwd.IsProper) :
    ∀ execution ∈ history commands shell,
      execution.after.session.builtinNames = shell.session.builtinNames ∧
      execution.after.session.environment = shell.session.environment ∧
      (execution.after.session.cwd ≠ execution.shell.session.cwd →
        execution.IsSuccessfulCd) ∧
      (execution.IsSuccessfulCd →
        Path.IsNormalText execution.after.session.cwd.toText ∧
          execution.after.machine.isDirectory execution.after.session.cwd =
            .ok true) := by
  intro execution hexecution
  have hstart : Follows shell.session shell.session :=
    ⟨rfl, rfl, habsolute, hproper⟩
  have hfollows :=
    @history_preserves (fun later => Follows shell.session later.session)
    (fun _ => Follows.step) commands shell hstart execution hexecution
  have hafter := hfollows.step
  obtain ⟨-, -, hnormal⟩ :=
    execution.isNormal_after hfollows.absolute hfollows.proper
  refine ⟨hafter.builtinNames, hafter.environment, fun hchanged => ?_, hnormal⟩
  rcases execution.session_cases with ⟨hsame, -⟩ | ⟨path, hchanges⟩
  · rw [hsame] at hchanged
    exact absurd rfl hchanged
  · exact ⟨hchanges.isCd, _, hchanges.result, rfl⟩

/-- After a command that is not found, a `cd` up, down and back again. -/
theorem session_of_mem_history_two :
    let setup : Setup := ⟨⟨true, true⟩, .collected, []⟩
    let last : Execution := ⟨(fresh.execute setup ⟨"nosuch".toList, [], []⟩).2,
      setup, ⟨"cd".toList, ["..//usr/lib/../lib".toList], []⟩⟩
    fresh.session.cwd.isAbsolute = true ∧ fresh.session.cwd.IsProper ∧
      last ∈ history [(setup, ⟨"nosuch".toList, [], []⟩), (setup, last.command)]
        fresh ∧
      last.IsSuccessfulCd ∧ last.after.session.cwd.toText = "/usr/lib".toList ∧
      Path.IsNormalText last.after.session.cwd.toText ∧
      last.after.machine.isDirectory last.after.session.cwd = .ok true := by
  intro setup last
  have hproper : fresh.session.cwd.IsProper :=
    Path.isProper_ofText "/home".toList
  have hmem : last ∈ history [(setup, ⟨"nosuch".toList, [], []⟩),
      (setup, last.command)] fresh :=
    List.mem_cons_of_mem _ List.mem_cons_self
  obtain ⟨-, -, hchanged, hnormal⟩ :=
    session_of_mem_history _ fresh rfl hproper last hmem
  have htext : last.after.session.cwd.toText = "/usr/lib".toList := by
      decide +kernel
  have hcd := hchanged (by decide)
  exact ⟨rfl, hproper, hmem, hcd, htext, hnormal hcd⟩

end Shell

end LineShell
