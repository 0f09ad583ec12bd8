import LineShell.Builtin
import LineShell.Command
import LineShell.Shell

/-!
Executing one command.  A builtin runs inside the shell: its redirections are
opened first, and its whole text is written at the end.  Any other command is
looked up along the search path, then its redirections are opened, and then it
is started.
-/
namespace LineShell

namespace Machine

/-- Opens the target of a redirection, seen from a directory; missing
directories above the target are made. -/
def openTarget (machine : Machine) (cwd : Path) (redirection : Redirection) :
    Except Refusal Handle × Machine :=
  let path := cwd.join (Path.ofText redirection.target)
  match machine.makeDirectories path.parent with
  | (.error refusal, made) => (.error refusal, made)
  | (.ok (), made) =>
    match made.openFile path redirection.mode with
    | .ok (handle, opened) => (.ok handle, opened)
    | .error refusal => (.error refusal, made)

/-- Opens the targets of redirections, in order, up to the first that cannot be
opened. -/
def openTargets (machine : Machine) (cwd : Path) (streams : Streams) :
    List Redirection → Except Failure Streams × Machine
  | [] => (.ok streams, machine)
  | redirection :: rest =>
    match machine.openTarget cwd redirection with
    | (.ok handle, opened) =>
      opened.openTargets cwd (streams.set redirection.stream handle) rest
    | (.error refusal, made) =>
        (.error (.ofTarget redirection.target refusal), made)

end Machine

namespace Command

/-- Who runs a command.  A redirected builtin is left to a child program if the
policy says so. -/
def route (session : Session) (policy : Policy) (command : Command) : Route :=
  if !session.isBuiltin command.name then .external
  else if command.isRedirected && !policy.builtinRedirection then .external
  else .builtin

end Command

namespace Shell

/-- Tells that the current directory has changed, if a builtin did that. -/
def tellDirectory (shell : Shell) (builtin : Builtin) (old : Path)
    (result : Except Failure Outcome) : Shell :=
  match builtin, result with
  | .cd, .ok _ => shell.tell (.directoryChanged old shell.session.cwd)
  | _, _ => shell

/-- Lets the effect of a builtin happen; its text goes to the file or to
standard output. -/
def settle (shell : Shell) (builtin : Builtin) (effect : Effect)
    (output : Option Handle) : Except Failure Outcome × Shell :=
  let changed := { shell with session := effect.session }.tellDirectory builtin
    shell.session.cwd
    effect.result
  match output with
  | none => (effect.result, changed.say effect.written)
  | some handle =>
    match changed.machine.write handle effect.written with
    | .ok (_, machine) => (effect.result, { changed with machine := machine })
    | .error error => (.error (.refused (.system error)), changed)

def runBuiltin (shell : Shell) (command : Command) :
    Except Failure Outcome × Shell :=
  match Builtin.ofName? command.name with
  | none => (.error (.unknownBuiltin command.name), shell)
  | some builtin =>
    match shell.machine.openTargets shell.session.cwd Streams.none
      command.redirections with
    | (.error failure, machine) =>
        (.error failure, { shell with machine := machine })
    | (.ok streams, machine) =>
      { shell with machine := machine }.settle builtin
        (builtin.run shell.session machine command.arguments) streams.output

/-- Takes over what a child leaves; the directory in which the shell works stays
the same. -/
def receive (shell : Shell) (left : Aftermath) : Shell :=
  { shell with
    machine := { left.machine with directory := shell.machine.directory }
    input := Text.dropBytes left.taken shell.input
    console := (shell.console.write .output left.written.output).write .errors
      left.written.errors }

def runProgram (shell : Shell) (name : Text) (program : Program)
    (streams : Streams) : Except Failure Outcome × Shell :=
  match program.prepare shell.machine streams.locations with
  | .error refusal => (.error (.cannotStart name refusal), shell)
  | .ok (entered, arguments) =>
    let started := shell.tell (.childStarted name program.path)
    let left :=
      shell.programs ⟨program, entered, streams, arguments⟩ shell.input
    (.ok (Outcome.ofChild name left.code),
      (started.receive left).tell (.childEnded name left.code))

def runExternal (shell : Shell) (command : Command) :
    Except Failure Outcome × Shell :=
  match shell.machine.findExecutable command.name shell.session.searchPath with
  | .error refusal => (.error (.refused refusal), shell)
  | .ok none => (.error (.commandNotFound command.name), shell)
  | .ok (some path) =>
    match shell.machine.openTargets shell.session.cwd Streams.none
      command.redirections with
    | (.error failure, machine) =>
        (.error failure, { shell with machine := machine })
    | (.ok streams, machine) =>
      { shell with machine := machine }.runProgram command.name
        ⟨path, command.name :: command.arguments, shell.session.environment,
          shell.session.cwd⟩
        streams

/-- Runs a command on its route. -/
def attempt (shell : Shell) (policy : Policy) (command : Command) :
    Except Failure Outcome × Shell :=
  let route := command.route shell.session policy
  let told := shell.tell (.routed command.name route)
  match route with
  | .builtin => told.runBuiltin command
  | .external => told.runExternal command

/-- Executes a command.  A failure that the shell survives is reported, and any
other is the answer. -/
def execute (shell : Shell) (setup : Setup) (command : Command) :
    Except Failure Outcome × Shell :=
  match shell.attempt setup.policy command with
  | (.ok outcome, after) => (.ok outcome, after)
  | (.error failure, after) =>
    if failure.isReported setup.policy.strictHome then
      (.ok (Outcome.failed command.name),
        after.report setup.reporter failure.message)
    else
      (.error failure, after)

section Continuing

variable (shell : Shell)

theorem continues_tellDirectory (builtin : Builtin) (old : Path)
    (result : Except Failure Outcome) :
    (shell.tellDirectory builtin old result).Continues shell := by
  unfold tellDirectory
  split
  · exact shell.continues_tell _
  · exact .refl shell

theorem continues_settle (builtin : Builtin) (effect : Effect)
    (output : Option Handle) :
    (shell.settle builtin effect output).2.Continues shell := by
  have hchanged :=
    continues_tellDirectory { shell with session := effect.session } builtin
    shell.session.cwd effect.result
  fun_cases settle shell builtin effect output with
  | case1 changed => exact ⟨hchanged.programs, hchanged.input⟩
  | case2 changed => exact ⟨hchanged.programs, hchanged.input⟩
  | case3 changed => exact ⟨hchanged.programs, hchanged.input⟩

theorem continues_runBuiltin (command : Command) :
    (shell.runBuiltin command).2.Continues shell := by
  fun_cases runBuiltin shell command with
  | case1 => exact .refl shell
  | case2 builtin hname failure machine hopen => exact ⟨rfl, List.suffix_rfl⟩
  | case3 builtin hname streams machine hopen =>
    exact (continues_settle { shell with machine := machine } _ _ _).trans ⟨rfl,
      List.suffix_rfl⟩

theorem continues_receive (left : Aftermath) :
    (shell.receive left).Continues shell :=
  ⟨rfl, Text.dropBytes_suffix _ _⟩

theorem continues_runProgram (name : Text) (program : Program)
    (streams : Streams) :
    (shell.runProgram name program streams).2.Continues shell := by
  fun_cases runProgram shell name program streams with
  | case1 => exact .refl shell
  | case2 entered arguments hprepare started left =>
    exact (continues_tell _ _).trans
      ((started.continues_receive left).trans (shell.continues_tell _))

theorem continues_runExternal (command : Command) :
    (shell.runExternal command).2.Continues shell := by
  fun_cases runExternal shell command with
  | case1 => exact .refl shell
  | case2 => exact .refl shell
  | case3 path hfind failure machine hopen => exact ⟨rfl, List.suffix_rfl⟩
  | case4 path hfind streams machine hopen =>
    exact (continues_runProgram { shell with machine := machine } _ _ _).trans
      ⟨rfl, List.suffix_rfl⟩

theorem continues_attempt (policy : Policy) (command : Command) :
    (shell.attempt policy command).2.Continues shell := by
  unfold attempt
  dsimp only
  split
  · exact (continues_runBuiltin _ command).trans (shell.continues_tell _)
  · exact (continues_runExternal _ command).trans (shell.continues_tell _)

theorem continues_execute (setup : Setup) (command : Command) :
    (shell.execute setup command).2.Continues shell := by
  have hattempt := shell.continues_attempt setup.policy command
  fun_cases execute shell setup command with
  | case1 outcome after hattempted =>
    rw [hattempted] at hattempt
    exact hattempt
  | case2 failure after hattempted hreported =>
    rw [hattempted] at hattempt
    exact (after.continues_report _ _).trans hattempt
  | case3 failure after hattempted hreported =>
    rw [hattempted] at hattempt
    exact hattempt

end Continuing

end Shell

end LineShell
