import LineShell.Child
import LineShell.Journal
import LineShell.Session
import LineShell.Text.Columns

/-!
The shell: the session, the machine on which it runs, the programs that it can
start, what is left on its standard input, and everything it has said so far.
-/
namespace LineShell

/-- The choices that change how commands run. -/
structure Policy where
  /-- Whether a builtin with redirections runs inside the shell. -/
  builtinRedirection : Bool
  /-- Whether a missing home directory ends the shell. -/
  strictHome : Bool
  deriving DecidableEq, Repr

/-- What becomes of the words of a reported failure. -/
inductive Reporter where
  /-- They are kept in a list. -/
  | collected
  /-- They are written to standard output as they are. -/
  | printed
  /-- They are displayed on standard output, in columns. -/
  | displayed
  /-- They are not shown. -/
  | hidden
  deriving DecidableEq, Repr

/-- How a shell is set up. -/
structure Setup where
  policy : Policy
  reporter : Reporter
  /-- What is written before each line is read. -/
  prompt : Text
  deriving DecidableEq, Repr

structure Shell where
  session : Session
  machine : Machine
  programs : Programs
  /-- What is left on standard input. -/
  input : Text
  console : Console
  reported : List Text
  journal : Journal

namespace Reporter

/-- A message as a line on standard output. -/
def shown (display : Bool) (message : Text) : Text :=
  (if display then Text.Columns.display message else message) ++ ['\n']

end Reporter

namespace Shell

/-- Writes to standard output. -/
def say (shell : Shell) (text : Text) : Shell :=
  { shell with console := shell.console.write .output text }

def tell (shell : Shell) (event : Event) : Shell :=
  if shell.journal.shows .debug then
    { shell with console := shell.console.write .errors event.line }
  else
    shell

def report (shell : Shell) (reporter : Reporter) (message : Text) : Shell :=
  match reporter with
  | .collected => { shell with reported := shell.reported ++ [message] }
  | .printed => shell.say (Reporter.shown false message)
  | .displayed => shell.say (Reporter.shown true message)
  | .hidden => shell

@[simp] theorem tell_session (shell : Shell) (event : Event) :
    (shell.tell event).session = shell.session := by
  unfold tell
  split <;> rfl

@[simp] theorem tell_machine (shell : Shell) (event : Event) :
    (shell.tell event).machine = shell.machine := by
  unfold tell
  split <;> rfl

@[simp] theorem tell_programs (shell : Shell) (event : Event) :
    (shell.tell event).programs = shell.programs := by
  unfold tell
  split <;> rfl

@[simp] theorem tell_input (shell : Shell) (event : Event) :
    (shell.tell event).input = shell.input := by
  unfold tell
  split <;> rfl

@[simp] theorem report_session (shell : Shell) (reporter : Reporter)
    (message : Text) :
    (shell.report reporter message).session = shell.session := by
  cases reporter <;> rfl

@[simp] theorem report_machine (shell : Shell) (reporter : Reporter)
    (message : Text) :
    (shell.report reporter message).machine = shell.machine := by
  cases reporter <;> rfl

/-- Whether one shell can come after another one: it starts the same programs,
and nothing has come to what is left on standard input. -/
structure Continues (after before : Shell) : Prop where
  programs : after.programs = before.programs
  input : after.input <:+ before.input

namespace Continues

theorem refl (shell : Shell) : shell.Continues shell := ⟨rfl, List.suffix_rfl⟩

theorem trans {first second third : Shell} (h : third.Continues second)
    (hbefore : second.Continues first) :
    third.Continues first :=
  ⟨h.programs.trans hbefore.programs, h.input.trans hbefore.input⟩

end Continues

theorem continues_tell (shell : Shell) (event : Event) :
    (shell.tell event).Continues shell :=
  ⟨tell_programs shell event, tell_input shell event ▸ List.suffix_rfl⟩

theorem continues_report (shell : Shell) (reporter : Reporter)
    (message : Text) :
    (shell.report reporter message).Continues shell := by
  cases reporter <;> exact ⟨rfl, List.suffix_rfl⟩

end Shell

end LineShell
