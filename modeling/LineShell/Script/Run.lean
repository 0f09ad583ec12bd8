import LineShell.Script.Call
import LineShell.Script.Flow

/-!
Running scripts: one command after another, each by its kind.  What a command is
made of is run by a `Runner`, and in the end the knot is tied by a number that
no nesting of commands reaches.
-/
namespace LineShell.Script

namespace Runner

/-- Runs a simple command.  A failure of which a function or a file ends counts
before its end. -/
def checked (tested : Bool) (action : Action Unit) : Action Unit := do
  match ← Action.attempt action with
  | .ok () => Action.check tested
  | .error (.back given) =>
    Action.check tested
    throw (.back given)
  | .error jump => throw jump

def step (run : Runner) (tested : Bool) : Tree → Action Unit
  | .nothing => return
  | .simple line assignments words targets => do
    modify fun state => { state with line := line }
    checked tested (simple run tested assignments words targets)
  | .redirected line (.subshell _ body) targets => do
    modify fun state => { state with line := line }
    subshell run tested body targets
    Action.check tested
  | .redirected line body targets => do
    modify fun state => { state with line := line }
    redirected run targets false (Action.check tested) (run tested body)
  | .sequence first second => do
    run tested first
    run tested second
  | .both first second => do
    run true first
    if (← get).status = 0 then run tested second
  | .either first second => do
    run true first
    if (← get).status ≠ 0 then run tested second
  | .negated body => do
    run true body
    modify fun state =>
      { state with status := if state.status = 0 then 1 else 0 }
  | .pipe parts => do
    pipe run tested none parts
    Action.check tested
  | .background body => leaveAlone run body
  | .subshell line body => do
    modify fun state => { state with line := line }
    subshell run tested body []
    Action.check tested
  | .choice test yes no => do
    run true test
    if (← get).status = 0 then
      run tested yes
    else
      match no with
      | .nothing => Action.leaveStatus 0
      | _ => run tested no
  | .loop whileFailing test body => loop run tested whileFailing test body
  | .each line name words body => do
    modify fun state => { state with line := line }
    each run tested name (← Expansion.ofWords run.output words) body
  | .select line word branches => do
    modify fun state => { state with line := line }
    select run tested (← Expansion.textOf run.output false word) branches
  | .define name body => do
    modify fun state =>
      let others := state.functions.filter fun entry => entry.1 ≠ name
      { state with functions := (name, body) :: others, status := 0 }

/-- Runs one command nested at most so deep; signals are heeded before and after
it. -/
def upTo : Nat → Runner
  | 0 => fun _ _ => return
  | depth + 1 => fun tested tree => do
    if !(← get).has 'n' then
      heed (upTo depth)
      step (upTo depth) tested tree
      heed (upTo depth)

end Runner

/-- Runs the program that runs scripts: how it ends, and the state in the
end. -/
def execute (state : State) (arguments : List Text) : Ending × State :=
  Runner.execute (Runner.upTo Read.boundless) state arguments

end LineShell.Script
