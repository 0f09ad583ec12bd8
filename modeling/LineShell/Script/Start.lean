import LineShell.Script.Builtins

/-!
The start of a script: what it takes over from the environment, what it knows
without it, and what it hands over to the programs that it starts itself.
-/
namespace LineShell.Script

namespace State

/-- A script that is about to start: the machine, what has been written, what is
open, what is taken over, the name and the arguments of the program that runs
scripts, and the environment. -/
def start (machine : Machine) (written : Console) (opened : List Opened)
    (descriptors : List (Nat × Nat)) (heritage : Heritage)
    (arguments : List Text) (environment : List (Text × Text)) : State :=
  let handed := environment.filterMap fun (name, value) =>
    if Words.isName name then
      some (Text.Bytes.encode name,
        Binding.mk (some (Text.Bytes.encode value)) true false)
    else
      none
  let usual (name value : String) : Text × Binding :=
    (name.toList, ⟨some value.toList, false, false⟩)
  let state : State :=
    { machine := machine
      written := written
      opened := opened
      descriptors := descriptors
      name := (arguments.map Text.Bytes.encode).headD []
      arguments := []
      bindings := handed
      functions := []
      aliases := []
      known := []
      frames := []
      texts := []
      status := 0
      line := 0
      reading := 0
      command := none
      options := []
      traps := []
      pending := []
      directory := []
      loops := 0
      inner := 0
      jobs := []
      launched := 0
      heritage := heritage
      copied := false
      reached := (1, none)
      saved := none
      calls := 0 }
  let given := (state.value? "PWD".toList).filter fun path =>
    path.head? = some '/' && state.directoryAt? path = some machine.directory
  let directory := given.getD state.physicalDirectory
  let missing :=
    [("PATH".toList, Builtins.standardDirectories), ("PS1".toList, "# ".toList),
      ("PS2".toList, "> ".toList), ("PS4".toList, "+ ".toList)].filterMap
        fun (name, value) =>
    if (state.binding? name).isSome then none
    else some (name, Binding.mk (some value) false false)
  let own := [usual "IFS" " \t\n", usual "OPTIND" "1", usual "PPID" "4194304"]
  let bindings := (state.bindings ++ missing).filter fun entry =>
    own.all fun other => other.1 ≠ entry.1
  { state with bindings := own ++ bindings, directory := directory }.bind
    "PWD".toList
    (some ⟨some directory, true, false⟩)

/-- What the programs that a script starts take over. -/
def legacy (state : State) : Heritage :=
  let silenced := (state.traps.filter fun trap => trap.2.isEmpty).map Prod.fst
  { state.heritage with
    ignored := state.heritage.ignored ++ silenced.filter Signal.canBeIgnored }

def environment (state : State) : List (Text × Text) :=
  state.bindings.filterMap fun (name, binding) =>
    if binding.exported then
      binding.value.map fun value =>
        (Text.Bytes.decode name, Text.Bytes.decode value)
    else
      none

end State

end LineShell.Script
