import LineShell.Launch

/-!
Requests to start programs.  The only program of the machine runs scripts; for
other files it is found through the interpreters that they name.
-/
namespace LineShell

/-- A request to start a program. -/
structure Program where
  /-- The executable. -/
  path : Path
  /-- The name under which it is called, and the arguments. -/
  arguments : List Text
  /-- The whole environment. -/
  environment : List (Text × Text)
  /-- The directory in which it starts. -/
  directory : Path

namespace Program

def launch (program : Program) : Launch :=
  ⟨program.arguments, program.environment⟩

/-- Why a request cannot even be handed over. -/
def objection? (program : Program) : Option Refusal :=
  let texts := program.directory.toText :: program.launch.texts
  if program.environment.any fun pair => pair.1.contains '=' then
    some .badVariableName
  else if texts.any fun text => text.contains '\x00' then
    some .nulCharacter
  else
    none

/-- Enters the directory in which a program starts, and finds the arguments of
the program that runs in the end, where `written` are the files that are open
for writing. -/
def prepare (program : Program) (machine : Machine) (written : List Location) :
    Except Refusal (Machine × List Text) :=
  match program.objection? with
  | some refusal => .error refusal
  | none =>
    match machine.examine program.directory with
    | .error refusal => .error refusal
    | .ok (location, .directory) =>
      let entered := { machine with directory := location }
      match program.launch.resolve entered written program.path.toText with
      | .error error => .error (.system error)
      | .ok arguments => .ok (entered, arguments)
    | .ok _ => .error (.system .notDirectory)

end Program

end LineShell
