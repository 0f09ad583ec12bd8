import LineShell.Failure
import LineShell.Lookup
import LineShell.Outcome
import LineShell.Text.Numeral

/-!
The commands that run inside the shell.  A builtin looks at the session and the
machine, and its effect is a text for its standard output, a session, and an
outcome or a failure; it changes no file.  The text counts also when the builtin
fails after writing it.
-/
namespace LineShell

inductive Builtin where
  | echo
  | type
  | pwd
  | cd
  | exit
  deriving DecidableEq, Repr

structure Effect where
  written : Text
  session : Session
  result : Except Failure Outcome

namespace Builtin

def name : Builtin → Text
  | .echo => "echo".toList
  | .type => "type".toList
  | .pwd => "pwd".toList
  | .cd => "cd".toList
  | .exit => "exit".toList

def all : List Builtin := [.echo, .type, .pwd, .cd, .exit]

def ofName? (text : Text) : Option Builtin :=
  all.find? fun builtin => builtin.name = text

def names : List Text := all.map name

def line (text : Text) : Text := text ++ ['\n']

def runEcho (session : Session) (arguments : List Text) : Effect :=
  ⟨line (Text.joinWith [' '] arguments), session,
    .ok (Outcome.success Builtin.echo.name)⟩

/-- What `type` says about one name, and whether it knows the name. -/
def describe (session : Session) (machine : Machine) (argument : Text) :
    Except Refusal (Text × Bool) :=
  if session.isBuiltin argument then
    .ok (argument ++ " is a shell builtin".toList, true)
  else
    (machine.findExecutable argument session.searchPath).map fun found =>
      match found with
      | some path => (argument ++ " is ".toList ++ path.toText, true)
      | none => (argument ++ ": not found".toList, false)

/-- Describes names until the system refuses an answer; `known` tells whether
all names before were known. -/
def describeAll (session : Session) (machine : Machine) (known : Bool) :
    List Text → Text × Except Refusal Bool
  | [] => ([], .ok known)
  | argument :: rest =>
    match describe session machine argument with
    | .error refusal => ([], .error refusal)
    | .ok (text, isKnown) =>
      let (others, allKnown) :=
        describeAll session machine (known && isKnown) rest
      (line text ++ others, allKnown)

/-- Says for every argument what a command of that name would run. -/
def runType (session : Session) (machine : Machine) (arguments : List Text) :
    Effect :=
  let (text, known) := describeAll session machine true arguments
  let result :=
    match known with
    | .ok true => .ok (Outcome.success Builtin.type.name)
    | .ok false =>
        .ok { Outcome.success Builtin.type.name with status := .error }
    | .error refusal => .error (.refused refusal)
  ⟨text, session, result⟩

def runPwd (session : Session) : Effect :=
  ⟨line session.cwd.toText, session, .ok (Outcome.success Builtin.pwd.name)⟩

/-- Changes the current directory to the one that the arguments, joined by
spaces, mean. -/
def runCd (session : Session) (machine : Machine) (arguments : List Text) :
    Effect :=
  let argument := Text.joinWith [' '] arguments
  match session.target? argument with
  | none => ⟨[], session, .error .homeNotSet⟩
  | some path =>
    match machine.examine path with
    | .ok (_, .directory) =>
      ⟨[], { session with cwd := path }, .ok (Outcome.success Builtin.cd.name)⟩
    | .ok _ => ⟨[], session, .error (.noDirectory argument)⟩
    | .error refusal =>
      if refusal.isAbsence then ⟨[], session, .error (.noDirectory argument)⟩
      else ⟨[], session, .error (.refused refusal)⟩

/-- Asks the shell to end: with the number that the first argument spells, or
with zero if there is none. -/
def runExit (session : Session) (arguments : List Text) : Effect :=
  match arguments with
  | [] => ⟨[], session, .ok ⟨Builtin.exit.name, .ok, 0, true⟩⟩
  | argument :: _ =>
    match Text.Numeral.parse? argument with
    | some code => ⟨[], session, .ok ⟨Builtin.exit.name, .ok, code, true⟩⟩
    | none =>
      ⟨line ("exit: ".toList ++
        argument ++ ": numeric argument required".toList), session,
        .ok ⟨Builtin.exit.name, .error, 2, false⟩⟩

def run (builtin : Builtin) (session : Session) (machine : Machine)
    (arguments : List Text) : Effect :=
  match builtin with
  | .echo => runEcho session arguments
  | .type => runType session machine arguments
  | .pwd => runPwd session
  | .cd => runCd session machine arguments
  | .exit => runExit session arguments

def call (name : Text) (session : Session) (machine : Machine)
    (arguments : List Text) : Effect :=
  match ofName? name with
  | some builtin => builtin.run session machine arguments
  | none => ⟨[], session, .error (.unknownBuiltin name)⟩

@[simp] theorem ofName?_name (builtin : Builtin) :
    ofName? builtin.name = some builtin := by
  cases builtin <;> decide

theorem name_eq_of_ofName? {text : Text} {builtin : Builtin}
    (h : ofName? text = some builtin) :
    builtin.name = text := by
  simpa using List.find?_some h

theorem ofName?_isSome_iff {text : Text} :
    (ofName? text).isSome = true ↔ text ∈ names := by
  constructor
  · intro h
    obtain ⟨builtin, hbuiltin⟩ := Option.isSome_iff_exists.1 h
    rw [← name_eq_of_ofName? hbuiltin]
    cases builtin <;> decide
  · intro h
    obtain ⟨builtin, -, rfl⟩ := List.mem_map.1 h
    simp

/-- Only `cd` changes the session, and of that only the current directory. -/
theorem run_session (builtin : Builtin) (session : Session) (machine : Machine)
    (arguments : List Text) :
    (builtin.run session machine arguments).session = session ∨
      ∃ cwd, builtin = .cd ∧
        (builtin.run session machine arguments).session =
          { session with cwd := cwd } := by
  cases builtin with
  | echo => exact Or.inl rfl
  | type => exact Or.inl rfl
  | pwd => exact Or.inl rfl
  | exit =>
    left
    cases arguments with
    | nil => rfl
    | cons argument rest =>
      simp only [run, runExit]
      split <;> rfl
  | cd =>
    simp only [run, runCd]
    split
    · exact Or.inl rfl
    · split
      · exact Or.inr ⟨_, trivial, rfl⟩
      · exact Or.inl rfl
      · split <;> exact Or.inl rfl

end Builtin

end LineShell
