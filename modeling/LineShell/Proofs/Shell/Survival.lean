import LineShell.Proofs.Command.Understood
import LineShell.Proofs.Shell.Cause
import LineShell.Proofs.Shell.Visit
import LineShell.Proofs.Volume.Nesting
import LineShell.Volume.Standard

/-!
Which failures end the shell.

Main statement: a run ends by a failure exactly if it comes to a line that the
shell does not survive, and after any other failure it reports the failure and
goes on with the rest of its input (`run_survival`).  The shell does not survive
that the system gives no answer about an executable or a directory, that a
target lies below more missing directories than can wait to be made, that a file
refuses the output of a builtin, and, where it is strict about that, that there
is no home directory.

Lines, names and what is written are texts of Unicode scalar values throughout:
every one of them can be encoded, so nothing fails of that.
-/
namespace LineShell

/-- Whether a file refuses a text that is written to a stream. -/
def Machine.RefusesOutput (machine : Machine) (output : Option Handle)
    (text : Text) (error : SystemError) : Prop :=
  text ≠ [] ∧ ∃ handle, output = some handle ∧
    machine.volume.refuses (.write handle.location) = some error

theorem Machine.refusesOutput_iff {machine : Machine} {handle : Handle}
    (hopen : machine.IsOpen handle) {text : Text} {error : SystemError} :
    machine.RefusesOutput (some handle) text error ↔
      machine.write handle text = .error error := by
  rw [hopen.write_eq_error_iff]
  simp [RefusesOutput]

/-- The failures of a command that the shell does not survive. -/
inductive Command.Defeats (session : Session) (machine : Machine)
    (policy : Policy) (command : Command) : Failure → Prop where
  /-- The system does not answer whether there is an executable. -/
  | lookup {refusal : Refusal}
      (hroute : command.route session policy = .external)
      (hname : Machine.isCommandName command.name = true)
      (hobscured : machine.Obscured command.name refusal session.searchPath) :
      Defeats session machine policy command (.refused refusal)
  /-- The first target that cannot be opened lies below more missing directories
  than can wait to be made.  The targets are opened if the command is a builtin,
  or an executable that is found. -/
  | target (hfound : command.route session policy = .external →
        ∃ path, machine.findExecutable command.name session.searchPath =
          .ok (some path))
      (hdeep : machine.OpensTooDeep session.cwd command.redirections) :
      Defeats session machine policy command (.refused .tooDeep)
  /-- A file refuses the output of a builtin. -/
  | output {builtin : Builtin} {streams : Streams} {opened : Machine}
      {error : SystemError}
      (hroute : command.route session policy = .builtin)
      (hname : Builtin.ofName? command.name = some builtin)
      (hopen : machine.openTargets session.cwd .none command.redirections =
        (.ok streams, opened))
      (hrefuses : opened.RefusesOutput streams.output
        (builtin.run session opened command.arguments).written error) :
      Defeats session machine policy command (.refused (.system error))
  /-- A builtin fails of a request to the system, or of a missing home
  directory. -/
  | builtin {builtin : Builtin} {streams : Streams} {opened : Machine}
      {failure : Failure}
      (hroute : command.route session policy = .builtin)
      (hname : Builtin.ofName? command.name = some builtin)
      (hopen : machine.openTargets session.cwd .none command.redirections =
        (.ok streams, opened))
      (hwritten : ∀ error, ¬ opened.RefusesOutput streams.output
        (builtin.run session opened command.arguments).written error)
      (hfails : Builtin.Fails session opened command.arguments builtin failure)
      (hfatal : failure = .homeNotSet ∧ policy.strictHome = true ∨
        ∃ refusal, failure = .refused refusal) :
      Defeats session machine policy command failure

namespace Shell

/-- Whether a line is a command that the shell does not survive. -/
def Escapes (shell : Shell) (policy : Policy) (line : Text)
    (failure : Failure) : Prop :=
  Text.allBlank line = false ∧ ∃ command, Command.ofLine line = .ok command ∧
    command.Defeats shell.session shell.machine policy failure

/-- What a builtin comes to in the end: a refused write takes the place of its
own result. -/
theorem settle_eq_error_iff {shell : Shell} {builtin : Builtin}
    {effect : Effect} {output : Option Handle} {failure : Failure}
    (hopen : ∀ handle, output = some handle → shell.machine.IsOpen handle) :
    (shell.settle builtin effect output).1 = .error failure ↔
      (∃ error, shell.machine.RefusesOutput output effect.written error ∧
        failure = .refused (.system error)) ∨
      (∀ error, ¬ shell.machine.RefusesOutput output effect.written error) ∧
        effect.result = .error failure := by
  have hmachine :=
    (tellDirectory_frame { shell with session := effect.session } builtin
    shell.session.cwd effect.result).2.1
  fun_cases settle shell builtin effect output with
  | case1 changed =>
      have hnone :
          ∀ error, ¬ shell.machine.RefusesOutput none effect.written error := by
        rintro error ⟨-, handle, hhandle, -⟩
        cases hhandle
      simp [hnone]
  | case2 changed handle moved machine hwrite =>
      have hnone : ∀ error,
          ¬ shell.machine.RefusesOutput (some handle) effect.written error := by
        intro error hrefuses
        rw [Machine.refusesOutput_iff (hopen handle rfl), ← hmachine]
          at hrefuses
        rw [hrefuses] at hwrite
        cases hwrite
      simp [hnone]
  | case3 changed handle error hwrite =>
      have hiff : ∀ other,
          shell.machine.RefusesOutput (some handle) effect.written other ↔
          other = error := by
        intro other
        rw [Machine.refusesOutput_iff (hopen handle rfl), ← hmachine]
        rw [show changed.machine.write handle effect.written =
          .error error from hwrite]
        simp [eq_comm]
      simp [hiff, eq_comm]

theorem isReported_of_runProgram
    {shell after : Shell} {name : Text} {program : Program}
    {streams : Streams} {failure : Failure} (strictHome : Bool)
    (h : shell.runProgram name program streams = (.error failure, after)) :
    failure.isReported strictHome = true := by
  unfold runProgram at h
  split at h
  · cases h
    rfl
  · cases h

theorem ofName?_isSome_of_route
    {session : Session} {policy : Policy} {command : Command}
    (hnames : ∀ name ∈ session.builtinNames, name ∈ Builtin.names)
    (hroute : command.route session policy = .builtin) :
    (Builtin.ofName? command.name).isSome = true := by
  unfold Command.route at hroute
  split at hroute
  · cases hroute
  · rename_i hbuiltin
    refine Builtin.ofName?_isSome_iff.2 (hnames _ ?_)
    simpa [Session.isBuiltin] using hbuiltin

theorem isReported_eq_false_of_fails {session : Session}
    {machine : Machine} {arguments : List Text} {builtin : Builtin}
    {failure : Failure} {strictHome : Bool}
    (h : Builtin.Fails session machine arguments builtin failure) :
    failure.isReported strictHome = false ↔
      failure = .homeNotSet ∧ strictHome = true ∨
        ∃ refusal, failure = .refused refusal := by
  cases h with
  | home => simp [Failure.isReported]
  | missing => simp [Failure.isReported]
  | directory => simp [Failure.isReported]
  | type => simp [Failure.isReported]

/-- A command whose targets cannot be opened fails of that, if it is one that
can be run. -/
theorem attempt_of_unopened {shell : Shell} {policy : Policy}
    {command : Command}
    {failure : Failure}
    (hnames : ∀ name ∈ shell.session.builtinNames, name ∈ Builtin.names)
    (hfound : command.route shell.session policy = .external →
      ∃ path, shell.machine.findExecutable command.name
        shell.session.searchPath = .ok (some path))
    (hopen : (shell.machine.openTargets shell.session.cwd .none
      command.redirections).1 =
      .error failure) :
    (shell.attempt policy command).1 = .error failure := by
  rcases hopened :
    shell.machine.openTargets shell.session.cwd .none command.redirections with
    ⟨result, machine⟩
  rw [hopened] at hopen
  obtain rfl : result = .error failure := hopen
  cases hroute : command.route shell.session policy with
  | builtin =>
      obtain ⟨builtin, hname⟩ :=
        Option.isSome_iff_exists.1 (ofName?_isSome_of_route hnames hroute)
      simp only [attempt, hroute, runBuiltin, hname, tell_session, tell_machine,
        hopened]
  | external =>
      obtain ⟨path, hfind⟩ := hfound hroute
      simp only [attempt, hroute, runExternal, hfind, tell_session,
        tell_machine, hopened]

/-- An attempt fails without a report exactly if the command defeats the
shell. -/
theorem attempt_unreported_iff
    {shell : Shell} {policy : Policy} {command : Command} {failure : Failure}
    (hnames : ∀ name ∈ shell.session.builtinNames, name ∈ Builtin.names) :
    (shell.attempt policy command).1 = .error failure ∧
        failure.isReported policy.strictHome = false ↔
      command.Defeats shell.session shell.machine policy failure := by
  constructor
  · rintro ⟨hresult, hunreported⟩
    have hcourse := shell.course_attempt policy command
    rw [hresult] at hcourse
    generalize (shell.attempt policy command).2 = after at hcourse
    cases hcourse with
    | unknown hroute hname =>
        have hknown := ofName?_isSome_of_route hnames hroute
        rw [hname] at hknown
        cases hknown
    | builtinUnopened hroute hname hopen =>
        obtain ⟨rfl, hdeep⟩ := (Machine.openTargets_unreported_iff _).1
          ⟨congrArg Prod.fst hopen, hunreported⟩
        refine .target (fun hexternal => ?_) hdeep
        rw [hroute] at hexternal
        cases hexternal
    | @builtin builtin streams machine _ _ hroute hname hopen hsettle =>
        have hareOpen :=
          Machine.openTargets_areOpen hopen (Machine.areOpen_none _)
        have hsettled := congrArg Prod.fst hsettle
        rw [settle_eq_error_iff fun handle hhandle =>
          hareOpen handle (Or.inl hhandle)] at hsettled
        rcases hsettled with ⟨error, hrefuses, rfl⟩ | ⟨hwritten, hresult⟩
        · exact .output hroute hname hopen hrefuses
        · have hfails := Builtin.result_eq_error_iff.1 hresult
          exact .builtin hroute hname hopen hwritten hfails
            ((isReported_eq_false_of_fails hfails).1 hunreported)
    | obscured hroute hfind =>
        obtain ⟨hname, hobscured⟩ := Machine.findExecutable_eq_error_iff.1 hfind
        exact .lookup hroute hname hobscured
    | notFound => cases hunreported
    | programUnopened hroute hfind hopen =>
        obtain ⟨rfl, hdeep⟩ := (Machine.openTargets_unreported_iff _).1
          ⟨congrArg Prod.fst hopen, hunreported⟩
        exact .target (fun _ => ⟨_, hfind⟩) hdeep
    | program hroute hfind hopen hrun =>
        rw [isReported_of_runProgram _ hrun] at hunreported
        cases hunreported
  · intro h
    cases h with
    | lookup hroute hname hobscured =>
        have hfind := Machine.findExecutable_eq_error_iff.2 ⟨hname, hobscured⟩
        refine ⟨?_, rfl⟩
        simp only [attempt, hroute, runExternal, tell_session, tell_machine,
          hfind]
    | target hfound hdeep =>
        have hopen :=
          (Machine.openTargets_unreported_iff policy.strictHome).2 ⟨rfl, hdeep⟩
        refine ⟨attempt_of_unopened hnames hfound hopen.1, rfl⟩
    | @output builtin streams opened error hroute hname hopen hrefuses =>
        have hareOpen :=
          Machine.openTargets_areOpen hopen (Machine.areOpen_none _)
        refine ⟨?_, rfl⟩
        simp only [attempt, hroute, runBuiltin, hname, tell_session,
          tell_machine, hopen]
        rw [settle_eq_error_iff fun handle hhandle =>
          hareOpen handle (Or.inl hhandle)]
        exact Or.inl ⟨error, hrefuses, rfl⟩
    | @builtin builtin streams opened _ hroute hname hopen hwritten hfails
        hfatal =>
        have hareOpen :=
          Machine.openTargets_areOpen hopen (Machine.areOpen_none _)
        refine ⟨?_, (isReported_eq_false_of_fails hfails).2 hfatal⟩
        simp only [attempt, hroute, runBuiltin, hname, tell_session,
          tell_machine, hopen]
        rw [settle_eq_error_iff fun handle hhandle =>
          hareOpen handle (Or.inl hhandle)]
        exact Or.inr ⟨hwritten, Builtin.result_eq_error_iff.2 hfails⟩

/-- A failing line defeats the shell exactly if its failure is not reported. -/
theorem escapes_iff
    {shell : Shell} {policy : Policy} {line : Text} {failure : Failure}
    (hnames : ∀ name ∈ shell.session.builtinNames, name ∈ Builtin.names) :
    shell.Escapes policy line failure ↔
      shell.Fails policy line failure ∧
        failure.isReported policy.strictHome = false := by
  have hattempt : ∀ command : Command,
      ((shell.read command).attempt policy command).1 = .error failure ∧
          failure.isReported policy.strictHome = false ↔
        command.Defeats shell.session shell.machine policy failure := by
    intro command
    rw [attempt_unreported_iff (by rw [read, tell_session]; exact hnames), read,
      tell_session, tell_machine]
  unfold Escapes Fails
  constructor
  · rintro ⟨hblank, command, hline, hdefeats⟩
    obtain ⟨hresult, hunreported⟩ := (hattempt command).2 hdefeats
    exact ⟨⟨hblank, Or.inr ⟨command, hline, hresult⟩⟩, hunreported⟩
  · rintro ⟨⟨hblank, ⟨error, hline, rfl⟩ | ⟨command, hline, hresult⟩⟩,
      hunreported⟩
    · rw [Failure.isReported, Command.detail?_isSome_of_ofLine hline]
        at hunreported
      cases hunreported
    · exact ⟨hblank, command, hline,
        (hattempt command).1 ⟨hresult, hunreported⟩⟩

theorem handleLine_failed_iff
    {shell : Shell} {setup : Setup} {line : Text} {failure : Failure}
    (hnames : ∀ name ∈ shell.session.builtinNames, name ∈ Builtin.names) :
    (shell.handleLine setup line).1 = .failed failure ↔
      shell.Escapes setup.policy line failure := by
  rw [escapes_iff hnames, fails_iff, handleLine_eq_answer]
  cases hjudge : (shell.judge setup.policy line).1 with
  | blank => simp [answer]
  | done outcome => simp [answer]
  | failed other outcome =>
      by_cases hreported : other.isReported setup.policy.strictHome = true
      · simp only [answer, if_pos hreported, Verdict.failed.injEq, reduceCtorEq,
          false_iff]
        rintro ⟨⟨outcome, rfl, -⟩, hunreported⟩
        rw [hreported] at hunreported
        cases hunreported
      · simp only [answer, if_neg hreported, Verdict.failed.injEq,
          Reply.failed.injEq]
        constructor
        · rintro rfl
          exact ⟨⟨outcome, rfl, rfl⟩, Bool.eq_false_iff.2 hreported⟩
        · rintro ⟨⟨outcome, rfl, -⟩, -⟩
          rfl

/-- A failure that does not defeat the shell is reported. -/
theorem handleLine_of_fails
    {shell : Shell} {setup : Setup} {line : Text} {failure : Failure}
    (hnames : ∀ name ∈ shell.session.builtinNames, name ∈ Builtin.names)
    (hfails : shell.Fails setup.policy line failure)
    (hescapes : ¬ shell.Escapes setup.policy line failure) :
    shell.messages setup line = [failure.message] ∧
      ∃ outcome, (shell.handleLine setup line).1 = .done outcome ∧
        outcome.exitRequested = false := by
  have hreported : failure.isReported setup.policy.strictHome = true := by
    cases h : failure.isReported setup.policy.strictHome with
    | true => rfl
    | false => exact absurd ((escapes_iff hnames).2 ⟨hfails, h⟩) hescapes
  obtain ⟨outcome, hjudge⟩ := fails_iff.1 hfails
  rw [messages_eq, handleLine_eq_answer, hjudge]
  simp only [answer, if_pos hreported]
  exact ⟨trivial, outcome, rfl, exitRequested_of_judge hjudge⟩

/-- A run on lines of Unicode scalar values ends by a failure exactly if it
comes to a line that the shell does not survive; after any other failure the
failure is reported and the run goes on with the rest of its input. -/
theorem run_survival (setup : Setup) (inputs : List Input) (shell : Shell)
    (hnames : ∀ name ∈ shell.session.builtinNames, name ∈ Builtin.names) :
    (∀ failure, (run setup inputs shell).ending = .failed failure ↔
      ∃ visit ∈ visits setup inputs shell,
        visit.shell.Escapes setup.policy visit.line failure) ∧
    ∀ visit ∈ visits setup inputs shell, ∀ failure,
      visit.shell.Fails setup.policy visit.line failure →
      ¬ visit.shell.Escapes setup.policy visit.line failure →
        visit.shell.messages setup visit.line = [failure.message] ∧
        run setup inputs shell =
          run setup visit.rest (visit.shell.handleLine setup visit.line).2 := by
  refine ⟨fun failure => ?_, fun visit hvisit failure hfails hescapes => ?_⟩
  · rw [run_failed_iff]
    refine exists_congr fun visit => and_congr_right fun hvisit => ?_
    obtain ⟨hkept, -⟩ := run_of_mem_visits hvisit
    exact handleLine_failed_iff (by rw [hkept]; exact hnames)
  · obtain ⟨hkept, hrun⟩ := run_of_mem_visits hvisit
    obtain ⟨hmessages, outcome, hreply, hexit⟩ :=
      handleLine_of_fails (by rw [hkept]; exact hnames) hfails hescapes
    refine ⟨hmessages, hrun.trans ?_⟩
    have hending : (Reply.done outcome).ending? = none := by
        simp [Reply.ending?, hexit]
    rw [Visit.run, hreply, hending]

def fresh : Shell where
  session := ⟨⟨.single, ["home".toList]⟩, Builtin.names,
    [("PATH".toList, "/bin".toList)]⟩
  machine := ⟨Volume.standard, ["home".toList]⟩
  programs := Programs.idle
  input := []
  console := Console.empty
  reported := []
  journal := Journal.silent

/-- An unknown command is reported, and the next line ends the shell, which is
not strict about a missing home directory: the device that its output goes to is
full. -/
theorem run_survival_full :
    let setup : Setup := ⟨⟨true, false⟩, .collected, []⟩
    let last : List Input :=
      [.line "echo hi > /dev/full".toList, .line "exit 3".toList]
    (∀ name ∈ fresh.session.builtinNames, name ∈ Builtin.names) ∧
    (∃ visit ∈ visits setup (.line "nosuch".toList :: last) fresh,
      visit.shell.Escapes setup.policy visit.line
      (.refused (.system .noSpace))) ∧
    fresh.messages setup "nosuch".toList = ["nosuch: not found".toList] ∧
    run setup (.line "nosuch".toList :: last) fresh =
      run setup last (fresh.handleLine setup "nosuch".toList).2 := by
  intro setup last
  have hnames : ∀ name ∈ fresh.session.builtinNames, name ∈ Builtin.names :=
    fun _ h => h
  have hsurvival :=
    run_survival setup (.line "nosuch".toList :: last) fresh hnames
  have hending : (run setup (.line "nosuch".toList :: last) fresh).ending =
      .failed (.refused (.system .noSpace)) := rfl
  have hfails : fresh.Fails setup.policy "nosuch".toList
      (.commandNotFound "nosuch".toList) :=
    ⟨rfl, Or.inr ⟨⟨"nosuch".toList, [], []⟩, rfl, rfl⟩⟩
  have hsurvives : ¬ fresh.Escapes setup.policy "nosuch".toList
      (.commandNotFound "nosuch".toList) := by
    rintro ⟨-, command, -, hdefeats⟩
    cases hdefeats with
    | builtin _ _ _ _ _ hfatal =>
        rcases hfatal with ⟨heq, -⟩ | ⟨refusal, heq⟩
        · cases heq
        · cases heq
  have hvisit : ⟨fresh, "nosuch".toList, last⟩ ∈
      visits setup (.line "nosuch".toList :: last) fresh :=
    List.mem_cons_self
  exact ⟨hnames, (hsurvival.1 _).1 hending,
    hsurvival.2 _ hvisit _ hfails hsurvives⟩

end Shell

end LineShell
