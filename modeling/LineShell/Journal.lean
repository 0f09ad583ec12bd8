import LineShell.Path
import LineShell.Text.Quoted
import LineShell.Text.Upper

/-!
The journal: events that the shell tells about its own work, and the level from
which on they are shown.

A journal remembers the level that was asked for last beside the threshold in
force.  Asking for the same level again does nothing; a level that does not
exist ends the showing of events and is not remembered.
-/
namespace LineShell

/-- How serious an event is. -/
inductive Severity where
  | trace
  | debug
  | info
  | success
  | warning
  | error
  | critical
  deriving DecidableEq, Repr

namespace Severity

def all : List Severity :=
  [.trace, .debug, .info, .success, .warning, .error, .critical]

def name : Severity → Text
  | .trace => "TRACE".toList
  | .debug => "DEBUG".toList
  | .info => "INFO".toList
  | .success => "SUCCESS".toList
  | .warning => "WARNING".toList
  | .error => "ERROR".toList
  | .critical => "CRITICAL".toList

def rank : Severity → Nat
  | .trace => 5
  | .debug => 10
  | .info => 20
  | .success => 25
  | .warning => 30
  | .error => 40
  | .critical => 50

def ofName? (text : Text) : Option Severity :=
  all.find? fun severity => severity.name = text

/-- Whether events of a severity are shown where `threshold` is in force. -/
def isShownFrom (threshold severity : Severity) : Bool :=
  threshold.rank ≤ severity.rank

@[simp] theorem ofName?_name (severity : Severity) :
    ofName? severity.name = some severity := by
  cases severity <;> decide

end Severity

/-- The level that was asked for, and the threshold in force. -/
structure Journal where
  configured : Option Text
  threshold : Option Severity
  deriving DecidableEq, Repr

structure UnknownLevel where
  name : Text
  deriving DecidableEq, Repr

namespace UnknownLevel

def message (level : UnknownLevel) : Text :=
  "Level '".toList ++ level.name ++ "' does not exist".toList

end UnknownLevel

namespace Journal

/-- A journal that shows nothing. -/
def silent : Journal := ⟨none, none⟩

/-- Asks for a level, in any case. -/
def configure (journal : Journal) (level : Text) :
    Except UnknownLevel Unit × Journal :=
  let name := Text.upper level
  if journal.configured = some name then
    (.ok (), journal)
  else
    match Severity.ofName? name with
    | some severity => (.ok (), ⟨some name, some severity⟩)
    | none => (.error ⟨name⟩, { journal with threshold := none })

def shows (journal : Journal) (severity : Severity) : Bool :=
  journal.threshold.any fun threshold => threshold.isShownFrom severity

/-- Asking for a level that was accepted once more changes nothing. -/
theorem configure_configure {journal changed : Journal} {level : Text}
    (h : journal.configure level = (.ok (), changed)) :
    changed.configure level = (.ok (), changed) := by
  simp only [configure] at h
  split at h
  · rename_i hconfigured
    obtain ⟨-, rfl⟩ := Prod.mk.inj h
    simp [configure, hconfigured]
  · split at h
    · obtain ⟨-, rfl⟩ := Prod.mk.inj h
      simp [configure]
    · exact absurd (Prod.mk.inj h).1 (by simp)

end Journal

/-- Who runs a command: the shell itself or a child program. -/
inductive Route where
  | builtin
  | external
  deriving DecidableEq, Repr

/-- What the shell tells about its work; all of it for debugging only. -/
inductive Event where
  | lineRead (name : Text) (arguments : List Text)
  | routed (name : Text) (route : Route)
  | directoryChanged (old new : Path)
  | childStarted (name : Text) (path : Path)
  | childEnded (name : Text) (code : Int)
  | inputEnded
  deriving DecidableEq, Repr

namespace Route

def name : Route → Text
  | .builtin => "builtin".toList
  | .external => "external".toList

end Route

namespace Event

/-- The words of an event.  The number of a child process is not known here, and
the letter `N` stands for it. -/
def message : Event → Text
  | .lineRead name arguments =>
    "loop.command name=".toList ++ name ++ " args=".toList ++
      Text.Quoted.writeAll arguments
  | .routed name route =>
    "dispatch.route name=".toList ++ name ++ " route=".toList ++ route.name
  | .directoryChanged old new =>
    "cd.change from=".toList ++ old.toText ++ " to=".toList ++ new.toText
  | .childStarted name path =>
    "external.spawn name=".toList ++ name ++ " path=".toList ++ path.toText ++
      " pid=N".toList
  | .childEnded name code =>
    "external.exit name=".toList ++ name ++ " returncode=".toList ++
      Text.ofInt code
  | .inputEnded => "loop.eof".toList

def line (event : Event) : Text :=
  Severity.debug.name ++ ' ' :: event.message ++ ['\n']

end Event

end LineShell
