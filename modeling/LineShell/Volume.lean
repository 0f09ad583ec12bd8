import LineShell.Refusal

/-!
A volume: what is stored where.  Every place below the root has a list of names
that leads to it, and a volume says for finitely many places what is there.  A
volume may also refuse an access for a reason of its own, whatever is stored: a
name that is too long, a device that is full, a bad disk.

The view of a volume is `find?`; `find?_put` says what storing something does to
it.
-/
namespace LineShell

/-- The names that lead from the root to a place. -/
abbrev Location := List Text

/-- What may be at a place. -/
inductive Node where
  | directory
  /-- A file with its text, and whether it may be run. -/
  | file (content : Text) (executable : Bool)
  /-- A symbolic link. -/
  | link (target : Text)
  /-- A device that takes every write and keeps nothing. -/
  | sink
  /-- The program that runs scripts. -/
  | interpreter
  deriving DecidableEq, Repr

/-- What a volume can be asked for. -/
inductive Access where
  /-- Taking a path as it is written. -/
  | spell (path : Text)
  /-- Looking a name up in its directory. -/
  | search (location : Location)
  /-- Telling what is at a place. -/
  | examine (location : Location)
  /-- Listing a directory. -/
  | list (location : Location)
  /-- Making a directory. -/
  | make (location : Location)
  /-- Opening a file for writing, a new one included. -/
  | openFile (location : Location)
  /-- Writing to an open file. -/
  | write (location : Location)
  deriving DecidableEq, Repr

/-- Places with what is there, and the accesses that are refused. -/
structure Volume where
  entries : List (Location × Node)
  /-- The places where something has been stored since the volume was laid out,
  and the directories that have got new names. -/
  changed : List Location := []
  refuses : Access → Option SystemError
  /-- How many requests for a directory can wait until the one above it is
  made. -/
  nesting : Nat

namespace Node

def isFile : Node → Bool
  | .file _ _ => true
  | .interpreter => true
  | _ => false

def isExecutable : Node → Bool
  | .file _ executable => executable
  | .interpreter => true
  | _ => false

end Node

namespace Volume

/-- What is at a place; at the root there is always a directory. -/
def find? (volume : Volume) : Location → Option Node
  | [] => some .directory
  | name :: names => volume.entries.lookup (name :: names)

/-- Stores a node in a list of entries, in the place of what was there. -/
def putEntry (location : Location) (node : Node) :
    List (Location × Node) → List (Location × Node)
  | [] => [(location, node)]
  | first :: rest =>
    if location = first.1 then (location, node) :: rest
    else first :: putEntry location node rest

def put (volume : Volume) (location : Location) (node : Node) : Volume :=
  let named :=
    if (volume.find? location).isSome then [] else [location.dropLast]
  { volume with
    entries := putEntry location node volume.entries
    changed := location :: named ++ volume.changed }

/-- Whether what is at a place was changed after what is at another one. -/
def isNewer (volume : Volume) (first second : Location) : Bool :=
  volume.changed.contains first && !volume.changed.contains second

def names (volume : Volume) (location : Location) : List Text :=
  volume.entries.filterMap fun entry =>
    if entry.1.dropLast = location then entry.1.getLast? else none

theorem lookup_putEntry (location other : Location) (node : Node)
    (entries : List (Location × Node)) :
    (putEntry location node entries).lookup other =
      if other = location then some node else entries.lookup other := by
  induction entries with
  | nil =>
    by_cases h : other = location
    · simp [putEntry, h]
    · simp [putEntry, h, List.lookup_cons, beq_eq_false_iff_ne.2 h]
  | cons first rest ih =>
    obtain ⟨place, found⟩ := first
    unfold putEntry
    by_cases hplace : location = place
    · subst hplace
      by_cases h : other = location
      · simp [h]
      · simp [h, List.lookup_cons, beq_eq_false_iff_ne.2 h]
    · simp only [hplace, if_false]
      by_cases h : other = place
      · subst h
        simp [Ne.symm hplace]
      · rw [List.lookup_cons, beq_eq_false_iff_ne.2 h, List.lookup_cons,
          beq_eq_false_iff_ne.2 h]
        simpa using ih

/-- After storing a node below the root it is there, and all else is as
before. -/
theorem find?_put (volume : Volume) {location : Location} (hne : location ≠ [])
    (node : Node) (other : Location) :
    (volume.put location node).find? other =
      if other = location then some node else volume.find? other := by
  cases other with
  | nil => simp [find?, Ne.symm hne]
  | cons name names => simp only [find?, put, lookup_putEntry]

end Volume

end LineShell
