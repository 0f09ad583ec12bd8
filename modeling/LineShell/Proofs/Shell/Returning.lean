import LineShell.Proofs.Session.Stages
import LineShell.Proofs.Shell.Fold
import LineShell.Proofs.Shell.History

/-!
Coming back to a directory by the text that `pwd` writes.

Main statement: a target without backslashes, written as a text, is the same
target again for every session; so after a `cd` to it what `pwd` writes leads
back to it from anywhere (`target?_returns`).
-/
namespace LineShell

namespace Path

theorem exists_toText_eq {path : Path} (h : path.isAbsolute = true) :
    ∃ rest, path.toText = '/' :: rest := by
  obtain ⟨root, parts⟩ := path
  cases root with
  | relative => cases h
  | single => exact ⟨_, rfl⟩
  | double => exact ⟨_, rfl⟩

end Path

namespace Session

variable {session : Session} {path : Path}

theorem withSlashes_eq_self {text : Text} (h : '\\' ∉ text) :
    withSlashes text = text := by
  refine (List.map_congr_left fun c hc => if_neg ?_).trans (List.map_id text)
  rintro rfl
  exact h hc

/-- An absolute path that is written without backslashes means itself, whatever
home is. -/
theorem meant?_toText (habsolute : path.isAbsolute = true)
    (hproper : path.IsProper) (hback : '\\' ∉ path.toText) (session : Session) :
    session.meant? path.toText = some path := by
  obtain ⟨rest, htext⟩ := Path.exists_toText_eq habsolute
  have hslashes := withSlashes_eq_self hback
  have hslash : Text.isBlank '/' = false := by decide
  have htrimmed : Text.trimStart path.toText = path.toText := by
    rw [htext, Text.trimStart, List.dropWhile_cons_of_neg (by simp [hslash])]
  have hbelow : belowHome? path.toText = none := by
    rw [belowHome?, htrimmed, hslashes, htext]
    rfl
  rw [meant?, hbelow, hslashes, Path.ofText_toText hproper]

/-- A target in normal form is the target of its own text, from wherever. -/
theorem target?_toText (habsolute : path.isAbsolute = true)
    (hnormal : path.IsNormal) (hback : '\\' ∉ path.toText) (session : Session) :
    session.target? path.toText = some path := by
  rw [target?_eq_map, meant?_toText habsolute hnormal.1 hback, Option.map_some,
    Path.join_of_isAbsolute habsolute, Path.normal_of_isNormal hnormal]

/-- A dot is the current directory. -/
theorem target?_dot (hnormal : path.IsNormal) (session : Session) :
    { session with cwd := path }.target? ['.'] = some path := by
  have hbelow : belowHome? ['.'] = none := by decide
  have hdot : Path.ofText (withSlashes ['.']) = ⟨.relative, []⟩ := by decide
  have hjoin : path.join ⟨.relative, []⟩ = path := by
      simp [Path.join, Path.isAbsolute]
  rw [target?_eq_map, meant?, hbelow, hdot, Option.map_some, hjoin,
    Path.normal_of_isNormal hnormal]

end Session

/-- Where an absolute path leads does not depend on the directory that the
machine is in. -/
theorem Machine.isDirectory_eq
    {machine other : Machine} (h : machine.volume = other.volume) {path : Path}
    (habsolute : path.isAbsolute = true) :
    machine.isDirectory path = other.isDirectory path := by
  obtain ⟨volume, directory⟩ := machine
  obtain ⟨volume', directory'⟩ := other
  cases h
  simp only [isDirectory, test, examine, locate, origin, habsolute, if_true]
  rfl

namespace Execution

variable {execution : Execution} {builtin : Builtin} {arguments : List Text}

/-- Whether a command calls a builtin with nothing redirected. -/
structure Calls (execution : Execution) (builtin : Builtin)
    (arguments : List Text) : Prop where
  command : execution.command = ⟨builtin.name, arguments, []⟩
  route : execution.command.route execution.shell.session
    execution.setup.policy = .builtin

theorem Calls.attempt_eq (h : execution.Calls builtin arguments) :
    execution.shell.attempt execution.setup.policy execution.command =
      (execution.shell.routed execution.setup.policy execution.command).settle
        builtin
        (builtin.run execution.shell.session execution.shell.machine arguments)
          none := by
  obtain ⟨hcommand, hroute⟩ := h
  have hname : Builtin.ofName? execution.command.name = some builtin := by
    rw [hcommand]
    exact Builtin.ofName?_name builtin
  have hplain : execution.command.redirections = [] := by rw [hcommand]
  have harguments : execution.command.arguments = arguments := by rw [hcommand]
  simp only [Shell.attempt, Shell.routed, hroute]
  rw [Shell.runBuiltin_of_unredirected hname hplain, Shell.tell_session,
    Shell.tell_machine, harguments]

/-- A call that succeeds has the result and the session of the builtin, and says
its text. -/
theorem Calls.of_ok (h : execution.Calls builtin arguments)
    {effect : Effect} {outcome : Outcome}
    (heffect : builtin.run execution.shell.session execution.shell.machine
      arguments = effect) (hresult : effect.result = .ok outcome) :
    execution.result = .ok outcome ∧ execution.after.session = effect.session ∧
      execution.after.console.output =
        execution.shell.console.output ++ effect.written := by
  have hattempt := h.attempt_eq
  rw [heffect] at hattempt
  have hroutes := execution.shell.prints_tell (.routed execution.command.name
    (execution.command.route execution.shell.session execution.setup.policy))
  have hprints := hroutes.trans ((execution.shell.routed execution.setup.policy
    execution.command).prints_settle builtin effect none)
  have hsession := ((execution.shell.routed execution.setup.policy
    execution.command).settle_frame builtin effect none).1
  have hsettled :
      (execution.shell.attempt execution.setup.policy execution.command).1 =
      .ok outcome := by
    rw [hattempt, ← hresult]
    rfl
  rcases execution.shell.execute_cases execution.setup execution.command with
    ⟨other, hother, hexecute⟩ | ⟨failure, hfailure, -⟩
  · rw [hsettled] at hother
    cases hother
    rw [result, after, hexecute, hattempt]
    exact ⟨rfl, hsession, hprints.output⟩
  · rw [hsettled] at hfailure
    cases hfailure

end Execution

namespace Session

/-- From an absolute directory a target that is written without backslashes is,
as a text, the same target for every session, and as the current directory it is
the target of a dot.  So after a `cd` that has led to it, what `pwd` writes is a
line with this text, and while the volume stays as it is a `cd` to the text
leads to it from any directory. -/
theorem target?_returns (session : Session)
    (habsolute : session.cwd.isAbsolute = true)
    (hproper : session.cwd.IsProper) (argument : Text) (path : Path)
    (htarget : session.target? argument = some path)
    (hback : '\\' ∉ path.toText) :
    (∀ other : Session, other.target? path.toText = some path) ∧
    { session with cwd := path }.target? ['.'] = some path ∧
    ∀ first : Execution, first.shell.session = session →
      Text.joinWith [' '] first.command.arguments = argument →
      first.IsSuccessfulCd →
      first.after.session = { session with cwd := path } ∧
      (∀ (asking : Execution) arguments, asking.Calls .pwd arguments →
        asking.shell.session = first.after.session →
        asking.after.console.output =
          asking.shell.console.output ++ Builtin.line path.toText) ∧
      ∀ again : Execution, again.Calls .cd [path.toText] →
        again.shell.machine.volume = first.after.machine.volume →
        again.result = .ok (Outcome.success Builtin.cd.name) ∧
        again.after.session = { again.shell.session with cwd := path } := by
  have hpath := isAbsolute_of_target? habsolute htarget
  have hnormal := isNormal_of_target? hproper htarget
  have hreturns := target?_toText hpath hnormal hback
  refine ⟨hreturns, target?_dot hnormal session, ?_⟩
  rintro first rfl rfl hcd
  rcases first.session_cases with ⟨-, hnot⟩ | ⟨found, hchanges⟩
  · exact absurd hcd hnot
  · obtain rfl : path = found :=
      Option.some.inj (htarget.symm.trans hchanges.target)
    refine ⟨hchanges.session, ?_, ?_⟩
    · intro asking arguments hcalls hsession
      obtain ⟨-, -, houtput⟩ := hcalls.of_ok rfl rfl
      have hwritten : (Builtin.pwd.run asking.shell.session asking.shell.machine
          arguments).written =
          Builtin.line path.toText := by
        rw [hsession, hchanges.session]
        rfl
      rw [houtput, hwritten]
    · intro again hcalls hvolume
      have hdirectory := hchanges.directory
      rw [← Machine.isDirectory_eq hvolume hpath] at hdirectory
      have heffect :
          Builtin.cd.run again.shell.session again.shell.machine [path.toText] =
          ⟨[], { again.shell.session with cwd := path },
            .ok (Outcome.success Builtin.cd.name)⟩ := by
        rw [Builtin.run, Builtin.runCd_eq (hreturns again.shell.session),
          hdirectory]
      obtain ⟨hresult, hsession, -⟩ := hcalls.of_ok heffect rfl
      exact ⟨hresult, hsession⟩

/-- After a `cd` up, down and back again: what `pwd` writes, and a `cd` to it
from another root, in a session that knows other variables, and with the machine
elsewhere. -/
theorem target?_returns_elsewhere :
    let setup : Setup := ⟨⟨true, true⟩, .collected, []⟩
    let path : Path := ⟨.single, ["usr".toList, "lib".toList]⟩
    let first : Execution := ⟨Shell.fresh, setup,
      ⟨"cd".toList, ["..//usr/lib/../lib".toList], []⟩⟩
    let asking : Execution := ⟨first.after, setup, ⟨"pwd".toList, [], []⟩⟩
    let again : Execution :=
      ⟨{ first.after with
          session := ⟨⟨.double, ["srv".toList]⟩, Builtin.names,
            [("HOME".toList, "~".toList)]⟩
          machine := { first.after.machine with directory := [] } }, setup,
        ⟨"cd".toList, ["/usr/lib".toList], []⟩⟩
    Shell.fresh.session.cwd.isAbsolute = true ∧
      Shell.fresh.session.cwd.IsProper ∧
      Shell.fresh.session.target? "..//usr/lib/../lib".toList = some path ∧
      '\\' ∉ path.toText ∧ first.IsSuccessfulCd ∧ asking.Calls .pwd [] ∧
      again.Calls .cd [path.toText] ∧
      asking.after.console.output =
        first.after.console.output ++ "/usr/lib\n".toList ∧
      again.result = .ok (Outcome.success "cd".toList) ∧
      again.after.session.cwd = path := by
  intro setup path first asking again
  have hproper : Shell.fresh.session.cwd.IsProper :=
    Path.isProper_ofText "/home".toList
  have htarget : Shell.fresh.session.target? "..//usr/lib/../lib".toList =
      some path := by decide
  have hback : '\\' ∉ path.toText := by decide
  have hcd : first.IsSuccessfulCd :=
    ⟨⟨rfl, rfl⟩, Outcome.success "cd".toList, by decide +kernel, rfl⟩
  have hagain : again.Calls .cd [path.toText] := ⟨rfl, rfl⟩
  obtain ⟨-, -, hreturns⟩ :=
    target?_returns Shell.fresh.session rfl hproper _ path htarget hback
  obtain ⟨hafter, hwrites, hcomes⟩ := hreturns first rfl rfl hcd
  have hasking : asking.Calls .pwd [] := by
    refine ⟨rfl, ?_⟩
    change Command.route first.after.session setup.policy _ = .builtin
    rw [hafter]
    rfl
  have hvolume : again.shell.machine.volume = first.after.machine.volume := by
    dsimp only [again]
  have hwritten : asking.after.console.output =
      first.after.console.output ++ "/usr/lib\n".toList := by
    have hline : Builtin.line path.toText = "/usr/lib\n".toList := by decide
    rw [hwrites asking [] hasking rfl, hline]
  obtain ⟨hresult, hsession⟩ := hcomes again hagain hvolume
  exact ⟨rfl, hproper, htarget, hback, hcd, hasking, hagain, hwritten, hresult,
    congrArg Session.cwd hsession⟩

end Session

end LineShell
