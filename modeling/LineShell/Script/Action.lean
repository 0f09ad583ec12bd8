import LineShell.Script.Arithmetic
import LineShell.Script.Descriptors

/-!
Actions: changes of a script that go on or jump somewhere else.  Here are those
on which all others are built: complaining and giving up, writing, setting
variables, and going on wherever an action jumps.
-/
namespace LineShell.Script

/-- An action of a script. -/
abbrev Action := ExceptT Jump (StateM State)

namespace Action

def complain (words : Text) : Action Unit := modify fun state =>
  let caller := (state.command.map fun name => name ++ ": ".toList).getD []
  let place :=
    state.name ++ ": ".toList ++ Nat.toDigits 10 state.line ++ ": ".toList
  (state.write 2 (place ++ caller ++ words ++ ['\n'])).2

/-- Complains and gives up. -/
def refuse {α : Type} (words : Text) : Action α := do
  complain words
  modify fun state => { state with status := 2 }
  throw .fault

def say (bytes : Text) : Action Bool := do
  let (taken, state) := (← get).write 1 bytes
  set state
  return taken

/-- Fails after the output of a builtin was not taken. -/
def lose (status : Nat) : Action Nat := do
  let name := (← get).command.getD []
  complain (name ++ ": I/O error".toList)
  return Nat.lor status 1

/-- Writes the whole output of a builtin with a status; it fails if the output
is not taken. -/
def finish (bytes : Text) (status : Nat) : Action Nat := do
  if ← say bytes then return status else lose status

/-- Goes on only if a variable can be changed. -/
def demand (name : Text) : Action Unit := do
  if ((← get).binding? name).any Binding.fixed then
    refuse (name ++ ": is read only".toList)

/-- The number that an argument is: a natural number of 31 bits. -/
def natural (argument : Text) : Action Nat := do
  match Arithmetic.whole? 10 argument with
  | some value =>
    if 0 ≤ value && value < 0x80000000 then return value.toNat
    else refuse ("Illegal number: ".toList ++ argument)
  | none => refuse ("Illegal number: ".toList ++ argument)

/-- Sets a variable, if it can be changed.  Options are read anew from the
argument whose number the variable `OPTIND` is given. -/
def assign (name value : Text) : Action Unit := do
  demand name
  if name = "OPTIND".toList then
    let index ← natural value
    modify fun state => { state with reached := (max index 1, none) }
  modify fun state => state.assign name value

/-- Stops the builtin that runs if its options are wrong. -/
def demandOptions {α : Type} (found : Except Text α) : Action α := do
  match found with
  | .ok value => return value
  | .error words => refuse words

/-- Goes on after an action wherever it jumps; the answer tells where. -/
def attempt {α : Type} (action : Action α) : Action (Except Jump α) :=
  fun state =>
  match action.run state with
  | (result, after) => (.ok result, after)

/-- Does something after an action, wherever that jumps. -/
def before {α : Type} (after : Action Unit) (action : Action α) : Action α := do
  let result ← attempt action
  after
  match result with
  | .ok value => return value
  | .error jump => throw jump

/-- Runs an action on a copy of the script: only the machine's volume, what was
written, what is open and the signals that have come stay changed.  The answer
is what `conclude` makes of the way the copy ends.  Of what is done when a
signal comes, a copy keeps only what is nothing, and it has no jobs. -/
def apart (conclude : Except Jump Unit → Action Ending) (action : Action Unit) :
    Action Ending := do
  let old ← get
  let traps := old.traps.filter fun trap => trap.2.isEmpty
  set { old with copied := true, traps := traps, jobs := [] }
  let result ← attempt (do conclude (← attempt action))
  modify fun after => { old with
    jobs := Job.pass old.jobs
    machine := { after.machine with directory := old.machine.directory }
    written := after.written
    opened := after.opened
    pending := after.pending }
  match result with
  | .ok ending => return ending
  | .error jump => throw jump

end Action

end LineShell.Script
