import LineShell.Token
import LineShell.Refusal
import LineShell.Text.Quoted

/-!
Failures: everything that can go wrong with a line, with the words that a user
sees, and which of them the shell reports and survives.
-/
namespace LineShell

inductive Failure where
  /-- The line is no command. -/
  | line (error : LineError)
  /-- No builtin and no executable has this name. -/
  | commandNotFound (name : Text)
  /-- The argument of `cd` leads to no directory. -/
  | noDirectory (argument : Text)
  /-- The home directory is asked for and no variable names it. -/
  | homeNotSet
  /-- The target of a redirection cannot be opened. -/
  | cannotOpen (target : Text) (cause : Refusal)
  /-- A program cannot be started. -/
  | cannotStart (name : Text) (cause : Refusal)
  /-- The system refused a request in the middle of a command. -/
  | refused (cause : Refusal)
  /-- A name counts as a builtin and no builtin has it. -/
  | unknownBuiltin (name : Text)
  deriving DecidableEq, Repr

namespace LineError

def message : LineError → Text
  | .unknownOperator text => Text.Quoted.write text
  | error => "syntax error: ".toList ++ error.detail?.getD []

end LineError

namespace Failure

/-- What comes of a target that was refused.  Requests that wait for one another
are no matter of the target. -/
def ofTarget (target : Text) : Refusal → Failure
  | .tooDeep => .refused .tooDeep
  | cause => .cannotOpen target cause

def message : Failure → Text
  | .line error => error.message
  | .commandNotFound name => name ++ ": not found".toList
  | .noDirectory argument =>
      "cd: no such file or directory: ".toList ++ argument
  | .homeNotSet => "cd: HOME not set".toList
  | .cannotOpen target cause => target ++ ": ".toList ++ cause.message
  | .cannotStart name cause => name ++ ": ".toList ++ cause.message
  | .refused cause => cause.message
  | .unknownBuiltin name => Text.Quoted.write name

/-- Whether the shell reports a failure of a running command and goes on.  A
missing home directory is reported unless the shell is strict about it. -/
def isReported (strictHome : Bool) : Failure → Bool
  | .line error => error.detail?.isSome
  | .commandNotFound _ => true
  | .noDirectory _ => true
  | .homeNotSet => !strictHome
  | .cannotOpen _ _ => true
  | .cannotStart _ _ => true
  | .refused _ => false
  | .unknownBuiltin _ => false

theorem isReported_ofTarget {strictHome : Bool} {target : Text}
    {cause : Refusal} :
    (ofTarget target cause).isReported strictHome = false ↔
      cause = .tooDeep := by
  cases cause <;> simp [ofTarget, isReported]

theorem ofTarget_of_ne {cause : Refusal} (h : cause ≠ .tooDeep)
    (target : Text) :
    ofTarget target cause = .cannotOpen target cause := by
  cases cause with
  | tooDeep => exact absurd rfl h
  | _ => rfl

end Failure

end LineShell
