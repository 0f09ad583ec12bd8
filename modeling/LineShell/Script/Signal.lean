import LineShell.Script.Arithmetic

/-!
Signals: their names and numbers, and which of them a script survives that does
nothing about them.  The number zero stands for the end of a script.
-/
namespace LineShell.Script.Signal

/-- The number of signals, zero included. -/
def count : Nat := 65

/-- The names of the signals with fixed meanings, from the first on. -/
def fixedNames : List String :=
  ["HUP", "INT", "QUIT", "ILL", "TRAP", "ABRT", "BUS", "FPE", "KILL", "USR1",
   "SEGV", "USR2", "PIPE", "ALRM", "TERM", "16", "CHLD", "CONT", "STOP", "TSTP",
   "TTIN", "TTOU", "URG", "XCPU", "XFSZ", "VTALRM", "PROF", "WINCH", "IO",
   "PWR", "SYS", "32", "33"]

def name (signal : Nat) : Text :=
  if signal = 0 then "EXIT".toList
  else if signal ≤ 33 then ((fixedNames[signal - 1]?).getD "").toList
  else if signal = 34 then "RTMIN".toList
  else if signal < 50 then "RTMIN+".toList ++ Nat.toDigits 10 (signal - 34)
  else if signal < 64 then "RTMAX-".toList ++ Nat.toDigits 10 (64 - signal)
  else "RTMAX".toList

def description (signal : Nat) : Text :=
  let words : List String :=
    ["Hangup",
     "Interrupt", "Quit", "Illegal instruction", "Trace/breakpoint trap",
     "Aborted", "Bus error", "Floating point exception", "Killed",
     "User defined signal 1", "Segmentation fault", "User defined signal 2",
     "Broken pipe", "Alarm clock", "Terminated", "Stack fault", "Child exited",
     "Continued", "Stopped (signal)", "Stopped", "Stopped (tty input)",
     "Stopped (tty output)", "Urgent I/O condition", "CPU time limit exceeded",
     "File size limit exceeded", "Virtual timer expired",
     "Profiling timer expired", "Window changed", "I/O possible",
     "Power failure", "Bad system call"]
  match words[signal - 1]? with
  | some found => found.toList
  | none => "Real-time signal ".toList ++ Nat.toDigits 10 (signal - 34)

/-- Whether nothing is said about a program that this signal has killed. -/
def isSilent (signal : Nat) : Bool := signal = 2 || signal = 13

/-- Whether a script that does nothing about a signal survives it. -/
def isHarmless (signal : Nat) : Bool := [0, 17, 18, 23, 28].contains signal

def ofKeyboard : List Nat := [2, 3]

def canBeIgnored (signal : Nat) : Bool :=
  !(signal = 0 || signal = 9 || signal = 19)

def ofDigits? (text : Text) : Option Nat :=
  (Arithmetic.natural? text).filter (· < count)

/-- The signal with a number, or with a name that is not that of a signal before
the `first` one; small letters are as good as capital ones. -/
def ofText? (first : Nat) (text : Text) : Option Nat :=
  (ofDigits? text).or
    ((List.range count).find? fun signal =>
      first ≤ signal && (name signal).map Char.toUpper = text.map Char.toUpper)

example : ofText? 1 "term".toList = some 15 := by decide +kernel
example : name 15 = "TERM".toList := by decide +kernel

end LineShell.Script.Signal
