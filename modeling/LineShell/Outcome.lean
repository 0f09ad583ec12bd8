import LineShell.Text

/-!
The outcome of a command.
-/
namespace LineShell

inductive Status where
  | ok
  | error
  deriving DecidableEq, Repr

/-- What a command that has run leaves: its name, its status, its exit code, and
whether the shell is to end with that code. -/
structure Outcome where
  name : Text
  status : Status
  exitCode : Int
  exitRequested : Bool
  deriving DecidableEq, Repr

namespace Outcome

def success (name : Text) : Outcome := ⟨name, .ok, 0, false⟩

def failed (name : Text) : Outcome := ⟨name, .error, 1, false⟩

/-- A line that is no command. -/
def malformed : Outcome := ⟨[], .error, 2, false⟩

def ofChild (name : Text) (code : Int) : Outcome :=
  ⟨name, if code = 0 then .ok else .error, code, false⟩

end Outcome

end LineShell
