import LineShell.Script.Builtins

/-!
What runs a command is handed over to all that a command is made of as a
`Runner`.  With one, the text of a script is read and run command by command, a
copy of the script is run to its end, and signals are heeded.

A script ends at its end, at `exit`, after a mistake, after a failure where it
is told to, or by a signal.  Whatever way it is, what is to be done at the end
of the script is done, unless a signal has killed it.
-/
namespace LineShell.Script

/-- What runs a command, where its failure may be looked at. -/
abbrev Runner := (tested : Bool) → Tree → Action Unit

namespace Action

def leaveStatus (status : Nat) : Action Unit :=
  modify fun state => { state with status := status }

/-- Ends the script after a failure that nobody looks at, where it is told
to. -/
def check (tested : Bool) : Action Unit := do
  let state ← get
  if state.has 'e' && !tested && state.status ≠ 0 then
    throw (.finish (.exited state.status))

/-- Tells that a signal has killed a command that the script waited for. -/
def tellEnd (ending : Ending) : Action Unit := do
  match ending with
  | .exited _ => return
  | .killed signal =>
    if !Signal.isSilent signal then
      modify fun state =>
        (state.write 2 (Signal.description signal ++ ['\n'])).2

end Action

namespace Runner

/-- Writes a part of a script as it is read, where the script is told to. -/
def echoRead (echoes : Bool) (text : Text) : Action Unit := do
  if echoes && (← get).has 'v' then modify fun state => (state.write 2 text).2

def linesOf : Nat → Text → Text
  | 0, _ => []
  | count + 1, text =>
    let line := text.takeWhile (· ≠ '\n')
    match text.drop line.length with
    | c :: rest => line ++ c :: linesOf count rest
    | [] => line

/-- Reads and runs commands one after the other from a text and what `more` adds
to it.  More is asked for where a command reaches beyond what is there, until
there is no more.  Their status is that of the last one, and zero if there is
none. -/
def commandsFrom (run : Runner) (echoes tested : Bool) (more : Action Text) :
    Nat → Source → (ran complete : Bool) → Action Unit
  | 0, _, _, _ => return
  | fuel + 1, stale, ran, complete => do
    let source :=
      { stale with texts := (← get).texts, aliases := (← get).aliases }
    let found := Read.line.run source
    let short :=
      match found with
      | .error _ => true
      | .ok (_, after) => after.rest.isEmpty && source.rest.getLast? ≠ some '\n'
    let added ← if short && !complete then more else pure []
    if !added.isEmpty then
      let longer := source.rest ++ added.filter (· ≠ '\x00')
      commandsFrom run echoes tested more fuel { source with rest := longer }
        ran complete
    else
      match found with
      | .error (line, flaw) =>
        echoRead echoes
          (linesOf (flaw.lastLine line + 1 - source.line) source.rest)
        modify fun state => { state with line := line }
        Action.refuse flaw.message
      | .ok (none, _) =>
        echoRead echoes source.rest
        if !ran then Action.leaveStatus 0
      | .ok (some tree, after) =>
        echoRead echoes
          (source.rest.take (source.rest.length - after.rest.length))
        modify fun state =>
          { state with texts := after.texts, reading := after.line }
        match tree with
        | .nothing =>
          commandsFrom run echoes tested more fuel after ran (complete || short)
        | _ =>
          run tested tree
          commandsFrom run echoes tested more fuel after true
            (complete || short)

/-- Does something that reads a text; the line up to which the script has been
read comes back. -/
def reading (action : Action Unit) : Action Unit := do
  let old := (← get).reading
  Action.before (modify fun state => { state with reading := old }) action

def text (run : Runner) (echoes tested : Bool) (text : Text) : Action Unit :=
  reading do
    commandsFrom run echoes tested (return []) (text.length + 2)
      (Source.start text) false false

/-- Takes all that is left to be read at a place. -/
def takeAll (place? : State → Option Nat) : Action Text := do
  let state ← get
  match place? state with
  | none => return []
  | some place =>
    let content := state.remaining place
    set (state.pass place content.length)
    return content

/-- Reads and runs the commands that are left to be read at a place. -/
def commands (run : Runner) (tested : Bool) (place? : State → Option Nat) :
    Action Unit :=
  reading do
    commandsFrom run true tested (takeAll place?) Read.boundless
      (Source.start []) false false

def heed (run : Runner) : Action Unit := do
  let state ← get
  if !state.copied && !state.pending.isEmpty then
    let status := state.saved.getD state.status
    set { state with pending := [], saved := some status }
    Action.before (modify fun after => { after with saved := state.saved }) do
      for signal in List.range Signal.count do
        if state.pending.contains signal then
          let action? := (← get).traps.lookup signal
          match action?.filter fun _ => !state.ignores signal with
          | some action =>
            match ← Action.attempt (text run false false action) with
            | .ok () => Action.leaveStatus status
            | .error (.back given) =>
              if !given then Action.leaveStatus status
              throw (.back given)
            | .error jump => throw jump
          | none => pure ()

/-- Ends a script: what is to be done at the end is done, unless a signal has
killed the script. -/
def conclude (run : Runner) (result : Except Jump Unit) : Action Ending := do
  match result with
  | .error (.finish (.killed signal)) => return .killed signal
  | _ =>
    match result with
    | .error (.finish (.exited status)) => Action.leaveStatus status
    | _ => pure ()
    let state ← get
    match state.traps.lookup 0 with
    | none => return .exited state.status
    | some action =>
      let left := state.traps.filter fun trap => trap.1 ≠ 0
      set { state with
        traps := left
        saved := some state.status
        loops := 0
        command := none }
      match ← Action.attempt (text run false false action) with
      | .error (.finish ending) => return ending
      | .error .fault => return .exited (← get).status
      | _ => return .exited state.status

/-- Ends the script if a signal that has come to it in the meantime kills it. -/
def endure : Action Unit := do
  let state ← get
  if !state.copied then
    match state.pending.find? (Builtins.kills state) with
    | some signal => throw (.finish (.killed signal))
    | none => return

/-- Runs a copy of the script to its end. -/
def copied (run : Runner) (action : Action Unit) : Action Ending := do
  let ending ← Action.apart (conclude run) action
  endure
  return ending

/-- What a command in a word writes. -/
def output (run : Runner) (tree : Tree) : Action Text := do
  match tree with
  | .nothing => return []
  | _ =>
    let place := (← get).opened.length
    let ending ← copied run do
      modify fun state => state.openAs 1 (.collector [])
      run false tree
    Action.tellEnd ending
    modify fun state => { state with inner := ending.status }
    match (← get).opened[place]? with
    | some (.collector content) => return content
    | _ => return []

end Runner

end LineShell.Script
