import LineShell.Console
import LineShell.Program

/-!
Child programs.

What a program does once it has been started is left open: it may do anything to
the machine, write to the console, and take what is left on the standard input
that it shares with the shell.  Everything about the shell holds whatever
programs do (`Programs`).
-/
namespace LineShell

/-- The files that the streams of a command go to. -/
structure Streams where
  output : Option Handle
  errors : Option Handle
  deriving DecidableEq, Repr

namespace Streams

def none : Streams := ⟨Option.none, Option.none⟩

def set (streams : Streams) (stream : Stream) (handle : Handle) : Streams :=
  match stream with
  | .output => { streams with output := some handle }
  | .errors => { streams with errors := some handle }

/-- The files that are open for writing. -/
def locations (streams : Streams) : List Location :=
  (streams.output.toList ++ streams.errors.toList).map Handle.location

end Streams

/-- A program that has been started: the request for it, the machine in the
directory in which it starts, its streams, and the arguments of the program that
runs in the end. -/
structure Child where
  program : Program
  machine : Machine
  streams : Streams
  arguments : List Text

/-- What a child leaves when it has ended. -/
structure Aftermath where
  /-- The code that the shell sees; after a signal it is the number of the
  signal with a minus sign. -/
  code : Int
  machine : Machine
  /-- What the child has written to the console. -/
  written : Console
  /-- The number of bytes that the child has taken from standard input. -/
  taken : Nat

/-- What programs do with what is left on standard input. -/
abbrev Programs := Child → (input : Text) → Aftermath

/-- Programs that succeed without doing anything. -/
def Programs.idle : Programs :=
  fun child _ => ⟨0, child.machine, Console.empty, 0⟩

end LineShell
