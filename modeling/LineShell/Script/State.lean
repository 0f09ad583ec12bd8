import LineShell.Console
import LineShell.Script
import LineShell.Script.Job
import LineShell.Script.Limit
import LineShell.Volume.Writing

/-!
A script on its way: the machine, what it has written, its open files, its
variables, and what it has taken over; and the places to which it can jump
instead of going on.
-/
namespace LineShell.Script

inductive Direction where
  | reading
  | writing
  | both
  deriving DecidableEq, Repr

inductive Opened where
  | console (stream : Stream)
  | file (handle : Handle) (direction : Direction)
  /-- What is written is kept. -/
  | collector (content : Text)
  /-- A text that is read. -/
  | source (rest : Text)
  deriving DecidableEq, Repr

structure Binding where
  value : Option Text
  exported : Bool
  /-- Whether the value can no longer be changed. -/
  fixed : Bool
  deriving DecidableEq, Repr

inductive Ending where
  | exited (status : Nat)
  | killed (signal : Nat)
  deriving DecidableEq, Repr

namespace Ending

/-- The code that whoever started the script sees: the last eight bits of the
status, or the signal with a minus sign. -/
def code : Ending → Int
  | .exited status => status % 256
  | .killed signal => -(signal : Int)

/-- The code as a status in a script that waits for the end. -/
def status : Ending → Nat
  | .exited status => status % 256
  | .killed signal => 128 + signal

end Ending

/-- Where an action goes instead of going on. -/
inductive Jump where
  /-- Behind so many loops. -/
  | leave (loops : Nat)
  /-- To the next round of the last of so many loops. -/
  | next (loops : Nat)
  /-- To the end of a function, with a status that was given for it or with the
  one at hand. -/
  | back (given : Bool)
  /-- Out of a command that cannot be carried out. -/
  | fault
  /-- To the end of the script. -/
  | finish (ending : Ending)
  deriving DecidableEq, Repr

/-- A program that has been found. -/
structure Known where
  path : Text
  /-- Whether the script has changed its directory since. -/
  stale : Bool
  deriving DecidableEq, Repr

/-- What comes back at the end of a function. -/
inductive Kept where
  | variable (name : Text) (binding : Option Binding)
  | options (letters : Text)
  deriving DecidableEq, Repr

/-- What a program takes over from the one that starts it, apart from its
environment. -/
structure Heritage where
  /-- The permissions that new files do not get. -/
  mask : Nat
  limits : List Limit
  /-- The signals that are ignored, whatever is to be done for them. -/
  ignored : List Nat
  deriving DecidableEq, Repr

structure State where
  machine : Machine
  /-- What has been written to the console, in bytes. -/
  written : Console
  /-- Everything that was ever opened. -/
  opened : List Opened
  /-- What the descriptors are open for, by its place in the list. -/
  descriptors : List (Nat × Nat)
  name : Text
  arguments : List Text
  bindings : List (Text × Binding)
  functions : List (Text × Tree)
  /-- The texts that stand for names of commands. -/
  aliases : List (Text × Text)
  /-- The programs that have been found, by name. -/
  known : List (Text × Known)
  /-- What is to be restored at the end of each function that runs. -/
  frames : List (List Kept)
  /-- The texts below commands, by number. -/
  texts : List (Nat × Word)
  status : Nat
  line : Nat
  /-- The line up to which the script has been read. -/
  reading : Nat
  /-- The builtin that runs. -/
  command : Option Text
  /-- The letters of the options that are set. -/
  options : Text
  /-- What is done when a signal comes, by number; zero is the end of the
  script. -/
  traps : List (Nat × Text)
  /-- The signals that have come. -/
  pending : List Nat
  /-- The current directory as it was entered. -/
  directory : Text
  /-- The number of loops that run. -/
  loops : Nat
  /-- The status of the last command in an expansion. -/
  inner : Nat
  /-- The places of the commands that were left to run by themselves, and how
  many there have been.
  -/
  jobs : List (Option Job)
  launched : Nat
  heritage : Heritage
  /-- Whether this is a copy of the script; signals go to the script itself. -/
  copied : Bool
  /-- The argument at which options are read next, and how many of its
  characters have been read. -/
  reached : Nat × Option Nat
  /-- The status before what is done for a signal, while that is done. -/
  saved : Option Nat
  /-- The number of functions that run. -/
  calls : Nat

namespace State

/-- The number that stands for the running script. -/
def selfNumber : Nat := 4194305

/-- The number of the command that was left to run by itself last. -/
def backgroundNumber (state : State) : Nat := selfNumber + state.launched

def binding? (state : State) (name : Text) : Option Binding :=
  state.bindings.lookup name

def value? (state : State) (name : Text) : Option Text :=
  (state.binding? name).bind Binding.value

def has (state : State) (option : Char) : Bool := state.options.contains option

/-- Whether a signal is ignored, whatever is to be done for it. -/
def ignores (state : State) (signal : Nat) : Bool :=
  state.heritage.ignored.contains signal

/-- Binds a variable, or takes it away. -/
def bind (state : State) (name : Text) (binding : Option Binding) : State :=
  let others := state.bindings.filter fun entry => entry.1 ≠ name
  { state with
    bindings := (binding.map fun found => (name, found)).toList ++ others }

/-- Sets a variable, which stays exported if it is.  What has been found along
other directories does not count any more. -/
def assign (state : State) (name value : Text) : State :=
  let old := (state.binding? name).getD ⟨none, false, false⟩
  let known := if name = "PATH".toList then [] else state.known
  { state with known := known }.bind name
    (some ⟨some value, old.exported || state.has 'a', old.fixed⟩)

/-- Remembers where a program has been found, unless that is known already. -/
def remember (state : State) (name path : Text) : State :=
  match state.known.lookup name with
  | none => { state with known := state.known ++ [(name, ⟨path, false⟩)] }
  | some old =>
    if old.stale then
      { state with
        known := state.known.map fun entry =>
          if entry.1 = name then (name, ⟨path, false⟩) else entry }
    else
      state

/-- Lets a variable be handed over to other programs. -/
def hand (state : State) (name : Text) : State :=
  let old := (state.binding? name).getD ⟨none, false, false⟩
  state.bind name (some { old with exported := true })

end State

end LineShell.Script
