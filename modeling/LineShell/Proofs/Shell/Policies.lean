import LineShell.Proofs.Shell.History
import LineShell.Proofs.Shell.Lockstep

/-!
What the policies change of a run.

Main statement: a strict shell parts from a lenient one at the first `cd` that
lacks a home directory and nowhere else, and it makes no difference whether
builtins are redirected inside the shell unless a line redirects one
(`run_policies`).
-/
namespace LineShell

namespace Setup

def withHome (setup : Setup) (strictHome : Bool) : Setup :=
  { setup with policy := { setup.policy with strictHome := strictHome } }

def withRedirection (setup : Setup) (builtinRedirection : Bool) : Setup :=
  { setup with
    policy := { setup.policy with builtinRedirection := builtinRedirection } }

end Setup

namespace Shell

variable {shell : Shell} {setup : Setup} {policy : Policy} {command : Command}
  {line : Text}

/-- Whether a line is a `cd` inside the shell, with its redirections open, that
needs a home directory where none is set. -/
def LacksHome (shell : Shell) (policy : Policy) (line : Text) : Prop :=
  Text.allBlank line = false ∧ ∃ command, Command.ofLine line = .ok command ∧
    IsCd shell.session policy command ∧
    (shell.machine.openTargets shell.session.cwd .none
      command.redirections).1.isOk = true ∧
    (Session.belowHome? (Text.joinWith [' '] command.arguments)).isSome = true ∧
    shell.session.home? = none

theorem target?_eq_none_iff {session : Session} {argument : Text} :
    session.target? argument = none ↔
      (Session.belowHome? argument).isSome = true ∧ session.home? = none := by
  unfold Session.target?
  cases Session.belowHome? argument with
  | none => simp
  | some below => simp

theorem homeNotSet_not_reported {failure : Failure}
    (h : failure.isReported true = true) :
    failure ≠ .homeNotSet := by
  rintro rfl
  cases h

theorem homeNotSet_ne_of_openTargets {machine opened : Machine} {cwd : Path}
    {streams : Streams} {redirections : List Redirection} {failure : Failure}
    (h : machine.openTargets cwd streams redirections =
      (.error failure, opened)) :
    failure ≠ .homeNotSet := by
  obtain ⟨_, _, hprogress, -⟩ :=
    machine.openTargets_touches cwd streams redirections
  rw [h] at hprogress
  cases hprogress with
  | upTo refusal => cases refusal <;> exact nofun

theorem Course.lacksHome {after : Shell}
    (h : shell.Course policy command (.error .homeNotSet) after) :
    IsCd shell.session policy command ∧
      (shell.machine.openTargets shell.session.cwd .none
        command.redirections).1.isOk = true ∧
      shell.session.target? (Text.joinWith [' '] command.arguments) = none := by
  cases h with
  | builtinUnopened hroute hname hopen =>
      exact absurd rfl (homeNotSet_ne_of_openTargets hopen)
  | programUnopened hroute hfind hopen =>
      exact absurd rfl (homeNotSet_ne_of_openTargets hopen)
  | program hroute hfind hopen hrun =>
      exact absurd rfl
        (homeNotSet_not_reported (isReported_of_runProgram true hrun))
  | @builtin builtin streams machine _ _ hroute hname hopen hsettle =>
      have hsettled :=
        settle_result { shell.routed policy command with machine := machine }
        builtin (builtin.run shell.session machine command.arguments)
          streams.output
      rw [hsettle] at hsettled
      rcases hsettled with hsame | ⟨error, herror⟩
      · cases Builtin.result_eq_error_iff.1 hsame.symm with
        | home htarget =>
            refine ⟨⟨hroute, (Builtin.name_eq_of_ofName? hname).symm⟩, ?_,
              htarget⟩
            rw [hopen]
            rfl
      · cases herror

theorem attempt_of_target?_eq_none (hcd : IsCd shell.session policy command)
    (hopens : (shell.machine.openTargets shell.session.cwd
      .none command.redirections).1.isOk = true)
    (htarget : shell.session.target? (Text.joinWith [' '] command.arguments) =
      none) :
    (shell.attempt policy command).1 = .error .homeNotSet := by
  obtain ⟨hroute, hname⟩ := hcd
  cases hopen :
    shell.machine.openTargets shell.session.cwd .none command.redirections with
  | mk opened machine =>
      rw [hopen] at hopens
      cases opened with
      | error failure => cases hopens
      | ok streams =>
          have heffect :
              Builtin.cd.run shell.session machine command.arguments =
              ⟨[], shell.session, .error .homeNotSet⟩ := by
            simp only [Builtin.run, Builtin.runCd, htarget]
          simp only [attempt, hroute, runBuiltin, hname, Builtin.ofName?_name,
            tell_session, tell_machine, hopen, heffect]
          rw [settle_of_error _ _ _ _ rfl rfl rfl]

/-- A command fails of a missing home directory exactly if it is a `cd` that
needs one. -/
theorem attempt_homeNotSet_iff :
    (shell.attempt policy command).1 = .error .homeNotSet ↔
      IsCd shell.session policy command ∧
        (shell.machine.openTargets shell.session.cwd .none
          command.redirections).1.isOk = true ∧
        shell.session.target? (Text.joinWith [' '] command.arguments) =
          none := by
  constructor
  · intro hresult
    have hcourse := shell.course_attempt policy command
    rw [hresult] at hcourse
    exact hcourse.lacksHome
  · rintro ⟨hcd, hopens, htarget⟩
    exact attempt_of_target?_eq_none hcd hopens htarget

/-- A line fails of a missing home directory exactly if it is a `cd` that needs
one. -/
theorem fails_homeNotSet_iff :
    shell.Fails policy line .homeNotSet ↔ shell.LacksHome policy line := by
  have hread : ∀ command, (shell.read command).session = shell.session ∧
      (shell.read command).machine = shell.machine :=
    fun command => ⟨tell_session _ _, tell_machine _ _⟩
  unfold Fails LacksHome
  refine and_congr_right fun hblank => ?_
  constructor
  · rintro (⟨error, -, heq⟩ | ⟨command, hline, hresult⟩)
    · cases heq
    · rw [attempt_homeNotSet_iff, (hread command).1, (hread command).2]
        at hresult
      exact ⟨command, hline, hresult.1, hresult.2.1,
        target?_eq_none_iff.1 hresult.2.2⟩
  · rintro ⟨command, hline, hcd, hopens, hhome⟩
    refine Or.inr ⟨command, hline, ?_⟩
    rw [attempt_homeNotSet_iff, (hread command).1, (hread command).2]
    exact ⟨hcd, hopens, target?_eq_none_iff.2 hhome⟩

theorem isReported_eq {failure : Failure} (h : failure ≠ .homeNotSet)
    (strict lenient : Bool) :
    failure.isReported strict = failure.isReported lenient := by
  cases failure with
  | homeNotSet => exact absurd rfl h
  | _ => rfl

/-- A choice about a missing home directory does not change how a line is
judged. -/
theorem judge_withHome (strictHome : Bool) :
    shell.judge (setup.withHome strictHome).policy line =
      shell.judge setup.policy line := rfl

theorem answer_withHome {verdict : Verdict} (strict lenient : Bool)
    (h : ∀ outcome, verdict ≠ .failed .homeNotSet outcome) :
    shell.answer (setup.withHome strict) verdict =
      shell.answer (setup.withHome lenient) verdict := by
  cases verdict with
  | blank => rfl
  | done outcome => rfl
  | failed failure outcome =>
      have hfailure : failure ≠ .homeNotSet := by
        rintro rfl
        exact h outcome rfl
      have hreported := isReported_eq hfailure strict lenient
      change (if failure.isReported strict = true then _ else _) =
        if failure.isReported lenient = true then _ else _
      rw [hreported]
      rfl

/-- Where no home directory is missing, a strict shell handles a line as a
lenient one does. -/
theorem handleLine_withHome (strict lenient : Bool)
    (h : ¬ shell.LacksHome setup.policy line) :
    shell.handleLine (setup.withHome strict) line =
      shell.handleLine (setup.withHome lenient) line := by
  rw [handleLine_eq_answer, handleLine_eq_answer, judge_withHome,
    judge_withHome]
  refine answer_withHome strict lenient fun outcome houtcome => h ?_
  exact fails_homeNotSet_iff.1 (fails_iff.2 ⟨outcome, houtcome⟩)

/-- Where a home directory is missing, a lenient shell reports that and goes on,
and a strict one ends in the state in which the lenient one reports. -/
theorem handleLine_of_lacksHome (h : shell.LacksHome setup.policy line) :
    ∃ outcome stopped,
      shell.handleLine (setup.withHome true) line =
        (.failed .homeNotSet, stopped) ∧
      shell.handleLine (setup.withHome false) line =
        (.done outcome,
          stopped.report setup.reporter Failure.homeNotSet.message) ∧
      outcome.exitRequested = false ∧
      shell.messages (setup.withHome false) line =
        [Failure.homeNotSet.message] := by
  obtain ⟨outcome, hjudge⟩ := fails_iff.1 (fails_homeNotSet_iff.2 h)
  refine ⟨outcome, (shell.judge setup.policy line).2, ?_, ?_,
    exitRequested_of_judge hjudge, ?_⟩
  · rw [handleLine_eq_answer, judge_withHome, hjudge]
    rfl
  · rw [handleLine_eq_answer, judge_withHome, hjudge]
    rfl
  · rw [messages_eq, judge_withHome, hjudge]
    rfl

/-- Whether a strict run stops at a visit, at which a home directory is missing
for the first time, and the lenient run goes on: until then they are the same,
and what the strict run leaves is what the lenient one has there, apart from the
report. -/
structure StopsAt (setup : Setup) (inputs : List Input) (shell : Shell)
    (before : List Visit) (visit : Visit) : Prop where
  lenient_visits : visits (setup.withHome false) inputs shell =
    before ++ visit :: visits (setup.withHome false) visit.rest
      (visit.shell.handleLine (setup.withHome false) visit.line).2
  strict_visits : visits (setup.withHome true) inputs shell = before ++ [visit]
  alike :
    ∀ earlier ∈ before, ¬ earlier.shell.LacksHome setup.policy earlier.line ∧
    earlier.shell.handleLine (setup.withHome true) earlier.line =
      earlier.shell.handleLine (setup.withHome false) earlier.line
  lacksHome : visit.shell.LacksHome setup.policy visit.line
  message : visit.shell.messages (setup.withHome false) visit.line =
    ["cd: HOME not set".toList]
  goes_on : run (setup.withHome false) inputs shell =
    run (setup.withHome false) visit.rest
      (visit.shell.handleLine (setup.withHome false) visit.line).2
  stops : run (setup.withHome true) inputs shell =
    ⟨.failed .homeNotSet, visit.rest.length,
      (visit.shell.handleLine (setup.withHome true) visit.line).2⟩
  report : (visit.shell.handleLine (setup.withHome false) visit.line).2 =
    (visit.shell.handleLine (setup.withHome true) visit.line).2.report
      setup.reporter
      "cd: HOME not set".toList
  session :
    (visit.shell.handleLine (setup.withHome true) visit.line).2.session =
    (visit.shell.handleLine (setup.withHome false) visit.line).2.session
  machine :
    (visit.shell.handleLine (setup.withHome true) visit.line).2.machine =
    (visit.shell.handleLine (setup.withHome false) visit.line).2.machine

/-- Where a strict run and a lenient one part, the strict one stops. -/
theorem PartAt.stopsAt {inputs : List Input} {before : List Visit}
    {visit : Visit}
    (h : PartAt (setup.withHome false) (setup.withHome true)
      (fun shell line => shell.LacksHome setup.policy line) inputs shell before
        visit) :
    StopsAt setup inputs shell before visit := by
  obtain ⟨outcome, stopped, hstrict, hlenient, hexit, hmessage⟩ :=
    handleLine_of_lacksHome h.differs
  have hgoes :
      (visit.shell.handleLine (setup.withHome false) visit.line).1.ending? =
      none := by
    rw [hlenient]
    simp [Reply.ending?, hexit]
  have hends :
      (visit.shell.handleLine (setup.withHome true) visit.line).1.ending? =
      some (.failed .homeNotSet) := by
    rw [hstrict]
    rfl
  refine ⟨?_, ?_, ?_, h.differs, hmessage, ?_, ?_, ?_, ?_, ?_⟩
  · rw [h.first_visits, Visit.next, hgoes]
  · rw [h.second_visits, Visit.next, hends]
  · intro earlier hearlier
    have halike := h.alike earlier hearlier
    exact ⟨halike, handleLine_withHome true false halike⟩
  · rw [h.first_run, Visit.run, hgoes]
  · rw [h.second_run, Visit.run, hends]
  · rw [hstrict, hlenient]
    rfl
  · rw [hstrict, hlenient, report_session]
  · rw [hstrict, hlenient, report_machine]

/-- Whether a line redirects a builtin. -/
def RedirectsBuiltin (shell : Shell) (line : Text) : Prop :=
  ∃ command, Command.ofLine line = .ok command ∧
    shell.session.isBuiltin command.name = true ∧ command.redirections ≠ []

/-- The policy counts for the route of a command only. -/
theorem attempt_of_route {first second : Policy}
    (h : command.route shell.session first =
      command.route shell.session second) :
    shell.attempt first command = shell.attempt second command := by
  simp only [attempt, h]

/-- Where no builtin is redirected, it makes no difference whether that would be
inside the shell. -/
theorem handleLine_withRedirection (first second : Bool)
    (h : ¬ shell.RedirectsBuiltin line) :
    shell.handleLine (setup.withRedirection first) line =
      shell.handleLine (setup.withRedirection second) line := by
  unfold handleLine
  cases hline : Command.ofLine line with
  | error error => rfl
  | ok command =>
      have hroute : ∀ policy : Policy, command.route shell.session policy =
          if shell.session.isBuiltin command.name then .builtin
          else .external := by
        intro policy
        cases hname : shell.session.isBuiltin command.name with
        | false => simp [Command.route, hname]
        | true =>
            have hplain : command.redirections = [] := by
              by_contra hredirected
              exact h ⟨command, hline, hname, hredirected⟩
            simp [Command.route, hname, Command.isRedirected, hplain]
      have hsame : command.route
          (shell.tell (.lineRead command.name command.arguments)).session
            (setup.withRedirection first).policy =
          command.route
            (shell.tell (.lineRead command.name command.arguments)).session
            (setup.withRedirection second).policy := by
        rw [tell_session, hroute, hroute]
      have hattempt := attempt_of_route hsame
      simp only [execute, hattempt]
      rfl

theorem exitRequested_of_runProgram
    {name : Text} {program : Program} {streams : Streams} {outcome : Outcome}
    (h : (shell.runProgram name program streams).1 = .ok outcome) :
    outcome.exitRequested = false := by
  unfold runProgram at h
  split at h
  · cases h
  · cases h
    rfl

/-- A command that does not run inside the shell leaves the session as it is and
asks for no end. -/
theorem execute_of_external
    (hroute : command.route shell.session setup.policy = .external) :
    (shell.execute setup command).2.session = shell.session ∧
      ∀ outcome, (shell.execute setup command).1 = .ok outcome →
        outcome.exitRequested = false := by
  have hcourse := shell.course_attempt setup.policy command
  constructor
  · rw [execute_session]
    rcases hcourse.session_cases with ⟨hsame, -⟩ | ⟨path, hchanges⟩
    · exact hsame
    · have hbuiltin := hchanges.isCd.1
      rw [hroute] at hbuiltin
      cases hbuiltin
  · intro outcome houtcome
    rcases shell.execute_cases setup command
      with ⟨other, hattempt, hexecute⟩ | ⟨failure, -, hexecute⟩
    · rw [hexecute] at houtcome
      obtain rfl : other = outcome := Except.ok.inj houtcome
      rw [hattempt] at hcourse
      generalize (shell.attempt setup.policy command).2 = after at hcourse
      cases hcourse with
      | builtin hbuiltin =>
          rw [hroute] at hbuiltin
          cases hbuiltin
      | program _ _ _ hrun =>
          exact exitRequested_of_runProgram (congrArg Prod.fst hrun)
    · rw [hexecute] at houtcome
      split at houtcome
      · cases houtcome
        rfl
      · cases houtcome

/-- A redirected command never runs inside a shell that does not redirect
builtins. -/
theorem route_of_redirected (session : Session) (setup : Setup)
    (h : command.redirections ≠ []) :
    command.route session (setup.withRedirection false).policy = .external := by
  simp [Command.route, Setup.withRedirection, Command.isRedirected, h]

/-- Each policy counts only where it is meant to.  A strict and a lenient run
are the same unless they come to a `cd` that lacks a home directory; at the
first one the strict run stops, in the state in which the lenient one reports
and goes on.  Redirecting builtins inside the shell or not makes no difference
to a run that comes to no redirected builtin; and where it is not done, no
redirected command changes the session or asks for the end. -/
theorem run_policies (setup : Setup) (inputs : List Input) (shell : Shell) :
    ((∀ visit ∈ visits (setup.withHome false) inputs shell,
        ¬ visit.shell.LacksHome setup.policy visit.line) ∧
      visits (setup.withHome true) inputs shell =
        visits (setup.withHome false) inputs shell ∧
      run (setup.withHome true) inputs shell =
        run (setup.withHome false) inputs shell ∨
      ∃ before visit, StopsAt setup inputs shell before visit) ∧
    (∀ first second,
      (∀ visit ∈ visits (setup.withRedirection first) inputs shell,
        ¬ visit.shell.RedirectsBuiltin visit.line) →
      visits (setup.withRedirection second) inputs shell =
        visits (setup.withRedirection first) inputs shell ∧
      run (setup.withRedirection second) inputs shell =
        run (setup.withRedirection first) inputs shell) ∧
    ∀ (other : Shell) (command : Command), command.redirections ≠ [] →
      (other.execute (setup.withRedirection false) command).2.session =
        other.session ∧
      ∀ outcome,
        (other.execute (setup.withRedirection false) command).1 = .ok outcome →
        outcome.exitRequested = false := by
  refine ⟨?_, ?_, ?_⟩
  · have hlockstep := @run_lockstep (setup.withHome false) (setup.withHome true)
      (fun shell line => shell.LacksHome setup.policy line) rfl
      (fun _ _ => handleLine_withHome true false) inputs shell
    rcases hlockstep with halike | ⟨before, visit, hpart⟩
    · exact Or.inl ⟨halike.alike, halike.same_visits, halike.same_run⟩
    · exact Or.inr ⟨before, visit, hpart.stopsAt⟩
  · intro first second hplain
    have hlockstep :=
      @run_lockstep (setup.withRedirection first) (setup.withRedirection second)
      RedirectsBuiltin rfl (fun _ _ => handleLine_withRedirection second first)
        inputs shell
    rcases hlockstep with halike | ⟨before, visit, hpart⟩
    · exact ⟨halike.same_visits, halike.same_run⟩
    · refine absurd hpart.differs (hplain visit ?_)
      rw [hpart.first_visits]
      exact List.mem_append_right _ List.mem_cons_self
  · intro other command hredirected
    exact execute_of_external
      (route_of_redirected other.session setup hredirected)

/-- Without a home directory a `cd` with its output to a file stops the strict
run only, and before that comes a builtin that is not redirected. -/
theorem run_policies_homeless :
    let setup : Setup := ⟨⟨true, true⟩, .collected, []⟩
    let plain : List Input := [.line "echo hi".toList]
    let lines : List Input :=
      plain ++ [.line "cd ~ > out".toList, .line "pwd".toList]
    (∃ before visit, StopsAt setup lines fresh before visit) ∧
      (∀ visit ∈ visits (setup.withRedirection true) plain fresh,
        ¬ visit.shell.RedirectsBuiltin visit.line) ∧
      run (setup.withRedirection false) plain fresh =
        run (setup.withRedirection true) plain fresh := by
  intro setup plain lines
  obtain ⟨hhome, -, -⟩ := run_policies setup lines fresh
  obtain ⟨-, hredirection, -⟩ := run_policies setup plain fresh
  have hstops : ∃ before visit, StopsAt setup lines fresh before visit := by
    rcases hhome with ⟨-, -, hsame⟩ | hstops
    · have hstrict : (run (setup.withHome true) lines fresh).ending =
          .failed .homeNotSet := rfl
      have hlenient :
          (run (setup.withHome false) lines fresh).ending = .status 0 := rfl
      rw [hsame, hlenient] at hstrict
      cases hstrict
    · exact hstops
  have hplain : ∀ visit ∈ visits (setup.withRedirection true) plain fresh,
      ¬ visit.shell.RedirectsBuiltin visit.line := by
    intro visit hvisit
    obtain rfl := List.mem_singleton.1 hvisit
    rintro ⟨command, hline, -, hredirected⟩
    cases hline
    exact hredirected rfl
  exact ⟨hstops, hplain, (hredirection true false hplain).2⟩

end Shell

end LineShell
