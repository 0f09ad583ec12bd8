import LineShell.Proofs.Command.Words
import LineShell.Proofs.Shell.Fold
import LineShell.Proofs.Shell.Output
import LineShell.Proofs.Shell.Policies
import LineShell.Proofs.Text.Numeral

/-!
How `exit` ends the shell.

Main statement: a shell ends with the very integer that the first argument of
`exit` spells, whatever comes after it, and no other command asks for the end;
an argument that spells none is named on the standard output of the command, and
the shell goes on (`run_exit`).
-/
namespace LineShell

open Text.Numeral (Spells IsDecimal)

namespace Text.Numeral

/-- No character of a numeral means anything to the reader of a line. -/
theorem Natural.forall_ordinary {text : Text} {n : Nat} (h : Natural text n) :
    ∀ c ∈ text, Token.IsOrdinary c ∧ c ≠ '>' := by
  obtain ⟨digits, hspells, -⟩ := h
  intro c hc
  rcases hspells.mem c hc with rfl | ⟨d, hd⟩
  · decide
  · have hne : ∀ special, digitValue? special = none → c ≠ special := by
      rintro special hnone rfl
      rw [hnone] at hd
      cases hd
    exact ⟨⟨hne _ (by decide), hne _ (by decide), hne _ (by decide),
      hne _ (by decide)⟩, hne _ (by decide)⟩

theorem IsDecimal.isPlain {text : Text} {n : Int} (h : IsDecimal text n) :
    Token.IsPlain text := by
  have hnumeral :
      ∀ {zeros m : Nat}, zeros + (Nat.toDigits 10 m).length ≤ digitLimit →
      ∀ c ∈ List.replicate zeros '0' ++ Nat.toDigits 10 m, Token.IsOrdinary c ∧
        c ≠ '>' :=
    fun hlength => (natural_zeros_append hlength).forall_ordinary
  cases h with
  | plain h => exact ⟨by simp [Nat.toDigits_ne_nil], hnumeral h⟩
  | plus h => exact ⟨by simp, List.forall_mem_cons.2 ⟨by decide, hnumeral h⟩⟩
  | minus h => exact ⟨by simp, List.forall_mem_cons.2 ⟨by decide, hnumeral h⟩⟩

end Text.Numeral

namespace Builtin

/-- The code with which `exit` ends the shell: what its first argument spells,
or zero. -/
inductive ExitCode : List Text → Int → Prop
  | zero : ExitCode [] 0
  | first {argument : Text} {code : Int} (arguments : List Text)
      (h : Spells argument code) :
      ExitCode (argument :: arguments) code

/-- What `exit` says of an argument that spells no integer. -/
def objection (argument : Text) : Text :=
  line ("exit: ".toList ++ argument ++ ": numeric argument required".toList)

variable {session : Session} {machine : Machine} {arguments : List Text}
  {code : Int}

theorem run_exit_of_exitCode (h : ExitCode arguments code) :
    exit.run session machine arguments =
      ⟨[], session, .ok ⟨exit.name, .ok, code, true⟩⟩ := by
  cases h with
  | zero => rfl
  | first arguments h =>
      simp only [run, runExit, Text.Numeral.parse?_eq_some_iff.2 h]

theorem run_exit_of_objection {argument : Text}
    (h : ∀ code, ¬ Spells argument code) (arguments : List Text) :
    exit.run session machine (argument :: arguments) =
      ⟨objection argument, session, .ok ⟨exit.name, .error, 2, false⟩⟩ := by
  have hnone : Text.Numeral.parse? argument = none :=
    Option.eq_none_iff_forall_ne_some.2 fun code hcode =>
      h code (Text.Numeral.parse?_eq_some_iff.1 hcode)
  simp only [run, runExit, hnone]
  rfl

/-- Of the builtins only `exit` asks for the end. -/
theorem exists_exitRequested_iff {builtin : Builtin} :
    (∃ outcome, (builtin.run session machine arguments).result = .ok outcome ∧
      outcome.exitRequested = true ∧ outcome.exitCode = code) ↔
    builtin = .exit ∧ ExitCode arguments code := by
  constructor
  · rintro ⟨outcome, hresult, hexit, rfl⟩
    cases builtin with
    | echo =>
        cases hresult
        cases hexit
    | pwd =>
        cases hresult
        cases hexit
    | type =>
        simp only [run, runType] at hresult
        split at hresult <;> cases hresult <;> cases hexit
    | cd =>
        rcases Shell.cd_run_cases session machine arguments
          with ⟨path, -, -, heffect⟩ | ⟨failure, heffect⟩
        · rw [heffect] at hresult
          cases hresult
          cases hexit
        · rw [heffect] at hresult
          cases hresult
    | exit =>
        refine ⟨rfl, ?_⟩
        cases arguments with
        | nil =>
            cases hresult
            exact .zero
        | cons argument rest =>
            by_cases hspells : ∃ code, Spells argument code
            · obtain ⟨code, hcode⟩ := hspells
              rw [run_exit_of_exitCode (.first rest hcode)] at hresult
              cases hresult
              exact .first rest hcode
            · rw [run_exit_of_objection (not_exists.1 hspells)] at hresult
              cases hresult
              cases hexit
  · rintro ⟨rfl, hcode⟩
    exact ⟨_, by rw [run_exit_of_exitCode hcode], rfl, rfl⟩

end Builtin

/-- Whether a command asks for the end of the shell with a code. -/
structure Command.AsksForEnd (session : Session) (machine : Machine)
    (policy : Policy) (command : Command) (code : Int) : Prop where
  name : command.name = Builtin.exit.name
  route : command.route session policy = .builtin
  opens :
    (machine.openTargets session.cwd .none command.redirections).1.isOk = true
  code : Builtin.ExitCode command.arguments code

/-- Whether a command is an `exit` that finds no integer in its first argument,
with its redirections open and its output not refused. -/
structure Command.Objects (session : Session) (machine : Machine)
    (policy : Policy) (command : Command) (argument : Text) (streams : Streams)
    (opened : Machine) : Prop where
  name : command.name = Builtin.exit.name
  route : command.route session policy = .builtin
  first : ∃ others, command.arguments = argument :: others
  rejected : ∀ code, ¬ Spells argument code
  opens : machine.openTargets session.cwd .none command.redirections =
    (.ok streams, opened)
  takes : ∀ error,
    ¬ opened.RefusesOutput streams.output (Builtin.objection argument) error

/-- Whether a text has gone to standard output, or else to what is open in its
place, and the console and the machine, in which that was opened, are otherwise
the same. -/
inductive Delivers (text : Text) (opened : Machine) (before after : Shell) :
    Option Handle → Prop
  | console (houtput : after.console.output = before.console.output ++ text)
      (hmachine : after.machine = opened) :
      Delivers text opened before after none
  | file {handle : Handle}
      (houtput : after.console.output = before.console.output)
      (happends : Machine.Appends (fun location => location = handle.location)
        text opened after.machine) :
      Delivers text opened before after (some handle)
  /-- A device shows nothing of what it takes. -/
  | device {handle : Handle}
      (houtput : after.console.output = before.console.output)
      (hsink : opened.volume.find? handle.location = some .sink)
      (hmachine : after.machine = opened) :
      Delivers text opened before after (some handle)

theorem Delivers.of_output_eq
    {text : Text} {opened : Machine} {first before after : Shell}
    {output : Option Handle} (h : Delivers text opened before after output)
    (hsame : before.console.output = first.console.output) :
    Delivers text opened first after output := by
  cases h with
  | console houtput hmachine => exact .console (hsame ▸ houtput) hmachine
  | file houtput happends => exact .file (hsame ▸ houtput) happends
  | device houtput hsink hmachine =>
      exact .device (hsame ▸ houtput) hsink hmachine

/-- What is open in the place of standard output is at its start, and empty if
it was emptied. -/
theorem Machine.start_of_openTargets {machine opened : Machine}
    {cwd : Path} {streams : Streams} {redirections : List Redirection}
    (h : machine.openTargets cwd .none redirections = (.ok streams, opened))
    {handle : Handle} (hhandle : streams.output = some handle) :
    opened.IsOpen handle ∧ handle.position = 0 ∧
      (handle.mode = .truncate →
        opened.volume.content handle.location = []) := by
  have hopen := Machine.openTargets_areOpen h (Machine.areOpen_none machine)
  rcases Machine.output_of_openTargets h with
    ⟨hnone, -⟩ | ⟨redirection, hmem, -, location, houtput, hleads⟩
  · rw [hnone] at hhandle
    cases hhandle
  · have hsame : handle = ⟨location, redirection.mode, 0⟩ :=
      Option.some.inj (hhandle.symm.trans houtput)
    refine ⟨hopen handle (Or.inl hhandle), by rw [hsame], ?_⟩
    rw [hsame]
    exact fun hmode =>
      Machine.content_of_openTargets_truncate h hmem hmode hleads

theorem Machine.write_of_sink {machine after : Machine} {handle moved : Handle}
    {text : Text} (h : machine.write handle text = .ok (moved, after))
    (hsink : machine.volume.find? handle.location = some .sink) :
    after = machine := by
  unfold write at h
  split at h
  · cases h
    rfl
  · split at h
    · cases h
    · simp only [hsink] at h
      cases h
      rfl

namespace Shell

variable {shell : Shell} {setup : Setup} {policy : Policy} {command : Command}
  {line : Text} {code : Int}

theorem attempt_exit_iff :
    (∃ outcome, (shell.attempt policy command).1 = .ok outcome ∧
      outcome.exitRequested = true ∧ outcome.exitCode = code) ↔
    command.AsksForEnd shell.session shell.machine policy code := by
  constructor
  · rintro ⟨outcome, hresult, hexit, hcode⟩
    have hcourse := shell.course_attempt policy command
    rw [hresult] at hcourse
    generalize (shell.attempt policy command).2 = after at hcourse
    cases hcourse with
    | @builtin builtin streams machine _ _ hroute hname hopen hsettle =>
        have hsettled :=
          settle_result { shell.routed policy command with machine := machine }
          builtin (builtin.run shell.session machine command.arguments)
            streams.output
        rw [hsettle] at hsettled
        rcases hsettled with hsame | ⟨error, herror⟩
        · obtain ⟨rfl, hexitCode⟩ :=
            Builtin.exists_exitRequested_iff.1 ⟨outcome, hsame.symm, hexit,
              hcode⟩
          exact ⟨(Builtin.name_eq_of_ofName? hname).symm,
            hroute, by rw [hopen]; rfl, hexitCode⟩
        · cases herror
    | program hroute hfind hopen hrun =>
        rw [exitRequested_of_runProgram (congrArg Prod.fst hrun)] at hexit
        cases hexit
  · rintro ⟨hname, hroute, hopens, hcode⟩
    cases hopen : shell.machine.openTargets shell.session.cwd .none
      command.redirections with
    | mk result opened =>
        rw [hopen] at hopens
        cases result with
        | error failure => cases hopens
        | ok streams =>
            have heffect :=
              @Builtin.run_exit_of_exitCode shell.session opened _ _ hcode
            have hknown : Builtin.ofName? command.name = some .exit := by
              rw [hname, Builtin.ofName?_name]
            refine ⟨⟨Builtin.exit.name, .ok, code, true⟩, ?_, rfl, rfl⟩
            simp only [attempt, hroute, runBuiltin, hknown, tell_session,
              tell_machine, hopen]
            rw [heffect]
            exact (settle_of_written_nil rfl streams.output).1

theorem execute_exit_iff :
    (∃ outcome, (shell.execute setup command).1 = .ok outcome ∧
      outcome.exitRequested = true ∧ outcome.exitCode = code) ↔
    command.AsksForEnd shell.session shell.machine setup.policy code := by
  rw [← attempt_exit_iff]
  rcases shell.execute_cases setup command with ⟨outcome, hattempt, hexecute⟩ |
    ⟨failure, hattempt, hexecute⟩
  · rw [hattempt, hexecute]
  · -- Neither a failure nor the outcome that stands for a reported one asks
    -- for the end.
    rw [hattempt, hexecute]
    split <;> simp [Outcome.failed]

theorem handleLine_exit_iff (hblank : Text.allBlank line = false)
    (hline : Command.ofLine line = .ok command) :
    (∃ outcome, (shell.handleLine setup line).1 = .done outcome ∧
      outcome.exitRequested = true ∧ outcome.exitCode = code) ↔
    command.AsksForEnd shell.session shell.machine setup.policy code := by
  have hread := @execute_exit_iff (shell.read command) setup command code
  rw [read, tell_session, tell_machine] at hread
  simp only [handleLine, hblank, hline, Bool.false_eq_true, if_false]
  rw [← hread]
  generalize (shell.tell (.lineRead command.name command.arguments)).execute
    setup command = executed
  obtain ⟨failure | outcome, after⟩ := executed <;> simp

/-- A run ends with a line that asks for the end, and nothing after the line
matters. -/
theorem run_of_asksForEnd (hblank : Text.allBlank line = false)
    (hline : Command.ofLine line = .ok command)
    (h : command.AsksForEnd shell.session shell.machine setup.policy code) :
    ∃ after, ∀ rest, run setup (.line line :: rest) shell =
      ⟨.status code, rest.length, after⟩ := by
  by_cases hexit : line = exitLine
  · have hcommand :
        Command.ofLine exitLine = .ok ⟨Builtin.exit.name, [['0']], []⟩ := rfl
    rw [hexit, hcommand] at hline
    cases hline
    have hzero : code = 0 := by
      cases h.code with
      | first arguments hspells =>
          have hread : Text.Numeral.parse? ['0'] = some 0 := by decide
          rw [Text.Numeral.parse?_eq_some_iff.2 hspells] at hread
          exact Option.some.inj hread
    exact ⟨shell.say setup.prompt,
      fun rest => by rw [hexit, hzero, run, if_pos rfl]⟩
  · obtain ⟨outcome, hreply, hrequested, hcode⟩ :=
      (@handleLine_exit_iff (shell.say setup.prompt) setup command line code
        hblank hline).2 h
    have hending : (Reply.done outcome).ending? = some (.status code) := by
      simp [Reply.ending?, hrequested, hcode]
    refine ⟨((shell.say setup.prompt).handleLine setup line).2, fun rest => ?_⟩
    rw [run_line hexit, Visit.run, hreply, hending]

/-- The text of a builtin goes where its output goes, if it is not refused
there. -/
theorem settle_delivers {builtin : Builtin} {effect : Effect}
    {output : Option Handle}
    (hstart : ∀ handle, output = some handle →
      shell.machine.IsOpen handle ∧ handle.position = 0 ∧
      (handle.mode = .truncate →
        shell.machine.volume.content handle.location = []))
    (htakes : ∀ error,
      ¬ shell.machine.RefusesOutput output effect.written error) :
    (shell.settle builtin effect output).1 = effect.result ∧
      Delivers effect.written shell.machine shell
        (shell.settle builtin effect output).2 output := by
  have hprints := (shell.prints_settle builtin effect output).output
  cases output with
  | none =>
      obtain ⟨hresult, hmachine⟩ := shell.settle_none builtin effect
      exact ⟨hresult, .console hprints hmachine⟩
  | some handle =>
      obtain ⟨hopen, hposition, hempty⟩ := hstart handle rfl
      have hsilent :
          (shell.settle builtin effect (some handle)).2.console.output =
          shell.console.output := hprints.trans (List.append_nil _)
      cases hwrite : shell.machine.write handle effect.written with
      | error error =>
          have hrefuses := (Machine.refusesOutput_iff hopen).2 hwrite
          exact absurd hrefuses (htakes error)
      | ok written =>
          obtain ⟨moved, machine⟩ := written
          obtain ⟨hresult, hmachine⟩ :=
            @settle_of_write shell builtin _ _ _ _ hwrite
          refine ⟨hresult, ?_⟩
          obtain ⟨node, hnode, rfl | ⟨content, executable, rfl⟩⟩ := hopen
          · exact .device hsilent hnode
              (hmachine.trans (Machine.write_of_sink hwrite hnode))
          · refine .file hsilent ?_
            rw [hmachine]
            exact Machine.write_appends hwrite ⟨content, executable, hnode⟩
              hposition hempty

/-- A command that objects says so and goes on. -/
theorem attempt_of_objects
    {argument : Text} {streams : Streams} {opened : Machine}
    (h : command.Objects shell.session shell.machine policy argument streams
      opened) :
    (shell.attempt policy command).1 =
      .ok ⟨Builtin.exit.name, .error, 2, false⟩ ∧
      (shell.attempt policy command).2.session = shell.session ∧
      (shell.attempt policy command).2.reported = shell.reported ∧
      Delivers (Builtin.objection argument) opened shell
        (shell.attempt policy command).2
        streams.output := by
  obtain ⟨hname, hroute, ⟨others, harguments⟩, hrejected, hopens, htakes⟩ := h
  have hknown : Builtin.ofName? command.name = some .exit := by
    rw [hname, Builtin.ofName?_name]
  have heffect := @Builtin.run_exit_of_objection shell.session opened argument
      hrejected others
  rw [← harguments] at heffect
  have hsettle : shell.attempt policy command =
      { shell.routed policy command with machine := opened }.settle .exit
        (Builtin.exit.run shell.session opened command.arguments)
          streams.output := by
    simp only [attempt, routed, hroute, runBuiltin, hknown, tell_session,
      tell_machine, hopens]
  rw [hsettle, heffect]
  obtain ⟨hresult, hdelivers⟩ := @settle_delivers
    { shell.routed policy command with machine := opened } .exit
    ⟨Builtin.objection argument, shell.session,
      .ok ⟨Builtin.exit.name, .error, 2, false⟩⟩
    streams.output (fun handle => Machine.start_of_openTargets hopens) htakes
  obtain ⟨hsession, hreported⟩ :=
    settle_frame { shell.routed policy command with machine := opened }
    .exit ⟨Builtin.objection argument, shell.session,
      .ok ⟨Builtin.exit.name, .error, 2, false⟩⟩
    streams.output
  exact ⟨hresult, hsession, hreported.trans (tell_reported _ _),
    hdelivers.of_output_eq (shell.tell_output _)⟩

/-- A line that objects is done, and the shell goes on. -/
theorem handleLine_of_objects {argument : Text}
    {streams : Streams} {opened : Machine} (hblank : Text.allBlank line = false)
    (hline : Command.ofLine line = .ok command)
    (h : command.Objects shell.session shell.machine setup.policy argument
      streams opened) :
    (shell.handleLine setup line).1 =
      .done ⟨Builtin.exit.name, .error, 2, false⟩ ∧
      (shell.handleLine setup line).2.session = shell.session ∧
      (shell.handleLine setup line).2.reported = shell.reported ∧
      Delivers (Builtin.objection argument) opened shell
        (shell.handleLine setup line).2
        streams.output := by
  have hread :
      command.Objects (shell.read command).session (shell.read command).machine
      setup.policy argument streams opened := by
    rw [read, tell_session, tell_machine]
    exact h
  obtain ⟨hresult, hsession, hreported, hdelivers⟩ := attempt_of_objects hread
  rw [handleLine_of_attempt hblank hline (Prod.ext hresult rfl)]
  exact ⟨rfl, hsession.trans (tell_session _ _), hreported.trans
    (tell_reported _ _), hdelivers.of_output_eq (shell.tell_output _)⟩

theorem run_of_not_exitRequested {outcome : Outcome} (hexit : line ≠ exitLine)
    (hreply : ((shell.say setup.prompt).handleLine setup line).1 =
      .done outcome) (h : outcome.exitRequested = false) (rest : List Input) :
    run setup (.line line :: rest) shell =
      run setup rest ((shell.say setup.prompt).handleLine setup line).2 := by
  have hending : (Reply.done outcome).ending? = none := by
      simp [Reply.ending?, h]
  rw [run_line hexit, Visit.run, hreply, hending]

/-- A line that calls `exit` with a numeral, and perhaps more words, ends a run
with its number. -/
theorem run_exit_words
    (hexit : shell.session.isBuiltin Builtin.exit.name = true) {n : Int}
    {spelling : Text} {words : List Text} (hspelling : IsDecimal spelling n)
    (hwords : ∀ word ∈ words, Token.IsPlain word) :
    ∃ after, ∀ rest, run setup
      (.line (Text.joinWith [' '] (Builtin.exit.name :: spelling :: words)) ::
        rest) shell =
        ⟨.status n, rest.length, after⟩ := by
  have hplain :
      ∀ word ∈ Builtin.exit.name :: spelling :: words, Token.IsPlain word :=
    List.forall_mem_cons.2
      ⟨by decide, List.forall_mem_cons.2 ⟨hspelling.isPlain, hwords⟩⟩
  have hline :=
    Command.ofLine_of_writes (fun word hword => (hplain word hword).1)
    (Token.writes_joinWith hplain)
  have hroute : Command.route shell.session setup.policy
      ⟨Builtin.exit.name, spelling :: words, []⟩ = .builtin := by
    rw [Command.route, hexit]
    rfl
  have hname : Builtin.exit.name.all Text.isBlank = false := by decide
  have hblank : Text.allBlank
      (Text.joinWith [' '] (Builtin.exit.name :: spelling :: words)) =
        false := by
    rw [Text.joinWith, Text.allBlank, List.all_append, List.all_append, hname]
    rfl
  exact run_of_asksForEnd hblank hline ⟨rfl, hroute, rfl,
    .first words hspelling.spells⟩

/-- Whatever integer its first argument spells, `exit` ends a run with this very
integer, and what comes after it is not read.  Of the lines that are commands
only a call of the builtin `exit` asks for the end, with its redirections open
and either no argument or a numeral for the first one.  If the first argument is
none, one line on the standard output of the command says so, and the run goes
on. -/
theorem run_exit (setup : Setup) (shell : Shell) :
    (∀ text n, Text.Numeral.parse? text = some n ↔ Spells text n) ∧
    (shell.session.isBuiltin Builtin.exit.name = true →
      ∀ n spelling words, IsDecimal spelling n →
        (∀ word ∈ words, Token.IsPlain word) →
        ∃ after, ∀ rest,
          run setup (.line (Text.joinWith [' ']
            (Builtin.exit.name :: spelling :: words)) :: rest) shell =
              ⟨.status n, rest.length, after⟩) ∧
    ∀ line command, Text.allBlank line = false →
      Command.ofLine line = .ok command →
      (∀ code, (∃ outcome, (shell.handleLine setup line).1 = .done outcome ∧
          outcome.exitRequested = true ∧ outcome.exitCode = code) ↔
        command.AsksForEnd shell.session shell.machine setup.policy code) ∧
      ∀ argument streams opened,
        command.Objects shell.session shell.machine setup.policy argument
          streams opened →
        (shell.handleLine setup line).1 =
          .done ⟨Builtin.exit.name, .error, 2, false⟩ ∧
        (shell.handleLine setup line).2.session = shell.session ∧
        (shell.handleLine setup line).2.reported = shell.reported ∧
        Delivers (Builtin.objection argument) opened shell
          (shell.handleLine setup line).2 streams.output ∧
        ∀ prior rest, prior.say setup.prompt = shell →
          run setup (.line line :: rest) prior =
            run setup rest (shell.handleLine setup line).2 := by
  refine ⟨fun text n => Text.Numeral.parse?_eq_some_iff, fun hexit
    n spelling words => run_exit_words hexit, fun line command hblank hline =>
    ⟨fun code => handleLine_exit_iff hblank hline, ?_⟩⟩
  intro argument streams opened hobjects
  obtain ⟨hreply, hsession, hreported, hdelivers⟩ :=
    handleLine_of_objects hblank hline hobjects
  refine ⟨hreply, hsession, hreported, hdelivers, ?_⟩
  rintro prior rest rfl
  refine run_of_not_exitRequested ?_ hreply rfl rest
  rintro rfl
  obtain ⟨others, harguments⟩ := hobjects.first
  cases hline
  cases harguments
  exact hobjects.rejected 0 (Text.Numeral.parse?_eq_some_iff.1 (by decide))

/-- A negative number after zeros and before another word, and an argument that
is no number, of which a file hears. -/
theorem run_exit_twice :
    let setup : Setup := ⟨⟨true, true⟩, .collected, []⟩
    let opened := (fresh.machine.openTargets fresh.session.cwd .none
      [⟨.output, .truncate, ['f']⟩]).2
    (∃ after,
      run setup [.line "exit -007 now".toList, .line "exit 3".toList] fresh =
      ⟨.status (-7), 1, after⟩) ∧
    Command.Objects fresh.session fresh.machine setup.policy
      ⟨Builtin.exit.name, ["1x".toList],
        [⟨.output, .truncate, ['f']⟩]⟩ "1x".toList
      ⟨some ⟨["home".toList, ['f']], .truncate, 0⟩, none⟩ opened ∧
    run setup [.line "exit 1x >f".toList, .line "exit 3".toList] fresh =
      run setup [.line "exit 3".toList]
        (fresh.handleLine setup "exit 1x >f".toList).2 ∧
    (fresh.handleLine setup "exit 1x >f".toList).2.console.output = [] ∧
    (fresh.handleLine setup "exit 1x >f".toList).2.machine.volume.content
      ["home".toList, ['f']] =
      "exit: 1x: numeric argument required\n".toList := by
  intro setup opened
  obtain ⟨-, hends, hlines⟩ := run_exit setup fresh
  have hseven : IsDecimal "-007".toList (-7) := @IsDecimal.minus 2 7 (by decide)
  obtain ⟨after, hrun⟩ := hends rfl (-7) _ ["now".toList] hseven (by decide)
  have hobjects : Command.Objects fresh.session fresh.machine setup.policy
      ⟨Builtin.exit.name, ["1x".toList],
        [⟨.output, .truncate, ['f']⟩]⟩ "1x".toList
      ⟨some ⟨["home".toList, ['f']], .truncate, 0⟩, none⟩ opened := by
    refine ⟨rfl, rfl, ⟨[], rfl⟩, fun code hcode => ?_, rfl, ?_⟩
    · have hnone : Text.Numeral.parse? "1x".toList = none := by decide
      rw [Text.Numeral.parse?_eq_some_iff.2 hcode] at hnone
      cases hnone
    · rintro error ⟨-, handle, ⟨⟩, hrefuses⟩
      cases hrefuses
  obtain ⟨-, -, -, hdelivers, hcontinues⟩ :=
    (hlines "exit 1x >f".toList _ rfl rfl).2 _ _ _ hobjects
  refine ⟨⟨after, hrun [.line "exit 3".toList]⟩, hobjects,
    hcontinues fresh _ rfl, ?_, ?_⟩
  · cases hdelivers with
    | file houtput happends => exact houtput
    | device houtput hsink hmachine => exact houtput
  · cases hdelivers with
    | file houtput happends =>
        rw [happends.content_of_filled rfl]
        rfl
    | device houtput hsink hmachine => cases hsink

end Shell

end LineShell
