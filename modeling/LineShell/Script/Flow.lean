import LineShell.Script.Target

/-!
Commands made of commands: copies of the script, pipes, loops and branches.  The
parts of a pipe run one after the other, and what one has written is all that
the next one reads.
-/
namespace LineShell.Script

namespace Runner

/-- Runs a command in a copy of the script and waits for its end. -/
def subshell (run : Runner) (tested : Bool) (body : Tree)
    (targets : List (Nat × Target)) : Action Unit := do
  let ready ← targets.mapM fun (descriptor, target) => do
    return (descriptor, ← prepare run target)
  let ending ← copied run do
    ready.forM fun (descriptor, target) => redirect run descriptor target
    run tested body
  Action.tellEnd ending
  Action.leaveStatus ending.status

/-- Looks up the program of a part of a pipe, where its name stands there
plainly.  The copy that runs the part could not tell the script where it is. -/
def foresee : Tree → Action Unit
  | .simple _ _ ([.bare name] :: _) _ => do
    if Words.isName name then discard (Builtins.seek name)
  | _ => return

/-- Runs the parts of a pipe one after the other, where each reads what the one
before has written.
-/
def pipe (run : Runner) (tested : Bool) : Option Text → List Tree → Action Unit
  | _, [] => return
  | input?, part :: rest => do
    foresee part
    let place := (← get).opened.length
    let ending ← copied run do
      if !rest.isEmpty then modify fun state => state.openAs 1 (.collector [])
      match input? with
      | some input => modify fun state => state.openAs 0 (.source input)
      | none => pure ()
      run tested part
    Action.tellEnd ending
    if rest.isEmpty then
      Action.leaveStatus ending.status
    else
      match (← get).opened[place]? with
      | some (.collector content) => pipe run tested (some content) rest
      | _ => pipe run tested (some []) rest

/-- Leaves a command to run by itself; it reads nothing, and it ignores what a
keyboard sends. -/
def leaveAlone (run : Runner) (body : Tree) : Action Unit := do
  let old ← get
  let ending ← copied run do
    modify fun state =>
      let silenced := Signal.ofKeyboard ++ state.heritage.ignored
      { state with heritage := { state.heritage with ignored := silenced }
        }.openAs 0 (.source [])
    run false body
  modify fun state =>
    let launched := { state with launched := state.launched + 1, status := 0 }
    let job : Job := ⟨launched.backgroundNumber, ending.status, false, false⟩
    { launched with jobs := Job.take (some job) old.jobs }

inductive Round where
  | normal
  | again
  | over
  deriving DecidableEq, Repr

def part (action : Action Unit) : Action Round := do
  match ← Action.attempt action with
  | .ok () => return .normal
  | .error (.leave loops) =>
    if loops ≤ 1 then return .over else throw (.leave (loops - 1))
  | .error (.next loops) =>
    if loops ≤ 1 then return .again else throw (.next (loops - 1))
  | .error jump => throw jump

def looped (action : Action Unit) : Action Unit := do
  modify fun state => { state with loops := state.loops + 1 }
  Action.before (modify fun state => { state with loops := state.loops - 1 })
    action

/-- Runs a loop.  Where a function ends in its test, the status is that of the
loop so far, unless one is given. -/
def loop (run : Runner) (tested whileFailing : Bool) (test body : Tree) :
    Action Unit := do
  let testing (status : Nat) : Action Unit := do
    match ← Action.attempt (run true test) with
    | .ok () => return
    | .error (.back given) =>
      if !given then Action.leaveStatus status
      throw (.back given)
    | .error jump => throw jump
  let rec rounds : Nat → Nat → Action Unit
    | 0, status => Action.leaveStatus status
    | fuel + 1, status => do
      match ← part (testing status) with
      | .over => Action.leaveStatus status
      | .again => rounds fuel status
      | .normal =>
        if ((← get).status = 0) = whileFailing then
          Action.leaveStatus status
        else
          let round ← part (run tested body)
          let after := (← get).status
          if round = .over then Action.leaveStatus after else rounds fuel after
  looped (rounds Read.boundless 0)

def each (run : Runner) (tested : Bool) (name : Text) (texts : List Text)
    (body : Tree) : Action Unit := do
  let rec rounds : List Text → Action Unit
    | [] => return
    | text :: rest => do
      Action.assign name text
      if (← part (run tested body)) ≠ .over then rounds rest
  looped (rounds texts)
  if texts.isEmpty then Action.leaveStatus 0

/-- Runs the first branch with a pattern that fits a text. -/
def select (run : Runner) (tested : Bool) (text : Text) :
    List (List Word × Tree) → Action Unit
  | [] => Action.leaveStatus 0
  | (patterns, body) :: rest => do
    let rec fits : List Word → Action Bool
      | [] => return false
      | pattern :: others => do
        if Pattern.fits (← Expansion.patternOf run.output pattern) text then
          return true
        else fits others
    if ← fits patterns then
      match body with
      | .nothing => Action.leaveStatus 0
      | _ => run tested body
    else
      select run tested text rest

end Runner

end LineShell.Script
