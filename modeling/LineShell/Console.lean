import LineShell.Redirection

/-!
The console: what has been written to standard output and to standard error so
far.
-/
namespace LineShell

/-- The texts on the two output streams. -/
structure Console where
  output : Text
  errors : Text
  deriving DecidableEq, Repr

namespace Console

def empty : Console := ⟨[], []⟩

/-- Adds a text at the end of a stream. -/
def write (console : Console) : Stream → Text → Console
  | .output, text => { console with output := console.output ++ text }
  | .errors, text => { console with errors := console.errors ++ text }

@[simp] theorem write_nil (console : Console) (stream : Stream) :
    console.write stream [] = console := by
  cases stream <;> simp [write]

end Console

end LineShell
