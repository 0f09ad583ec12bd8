import LineShell.CommandLine
import LineShell.Interpreter
import LineShell.Volume.Standard

/-!
The program: reads standard input, runs the shell on a fresh machine that lives
in memory, and prints what the shell wrote.
-/
open LineShell

/-- All that is left on a stream. -/
partial def readAll (stream : IO.FS.Stream) (before : String) : IO String := do
  let line ← stream.getLine
  if line.isEmpty then return before else readAll stream (before ++ line)

def main (arguments : List String) : IO UInt32 := do
  let input ← readAll (← IO.getStdin) ""
  let directory : Location := ["home".toList]
  let environment :=
    [("PATH".toList, "/bin".toList), ("HOME".toList, "/home".toList)]
  let session :=
    CommandLine.run Interpreter.run ⟨Volume.standard, directory⟩ environment
    (arguments.map String.toList) input.toList
  (← IO.getStdout).putStr (String.ofList session.console.output)
  (← IO.getStderr).putStr (String.ofList session.console.errors)
  match session.ending with
  | .ok status => return UInt32.ofNat (status % 256).toNat
  | .error stop =>
    (← IO.getStderr).putStrLn (String.ofList stop.message)
    return 1
