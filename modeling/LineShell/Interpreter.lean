import LineShell.Child
import LineShell.Script.Run

/-!
The programs of a machine on which every file that may be run is, in the end, a
script.
-/
namespace LineShell.Interpreter

/-- What a stream of a child is open for. -/
def opened (stream : Stream) : Option Handle → Script.Opened
  | some handle => .file handle .writing
  | none => .console stream

/-- The state in which the script of a child starts, with bytes on its standard
input. -/
def start (child : Child) (bytes : Text) : Script.State :=
  Script.State.start child.machine Console.empty
    [.source bytes, opened .output child.streams.output,
      opened .errors child.streams.errors]
    [(0, 0), (1, 1), (2, 2)] ⟨0o22, Script.Limit.usual, []⟩ child.arguments
    child.program.environment

def run : Programs := fun child input =>
  let bytes := Text.Bytes.encode input
  let (ending, after) := Script.execute (start child bytes) child.arguments
  { code := ending.code
    machine := after.machine
    written :=
      ⟨Text.Bytes.decode after.written.output,
        Text.Bytes.decode after.written.errors⟩
    taken := bytes.length - (after.remaining 0).length }

end LineShell.Interpreter
