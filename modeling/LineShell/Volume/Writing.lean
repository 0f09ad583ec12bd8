import LineShell.Volume.Walk
import LineShell.Redirection

/-!
Making directories, opening files for writing, and writing to them.

An open file keeps its place and a position, counted in bytes.  A file that was
opened to be emptied is written at the position, which moves; one that was
opened to be appended to is written at its end, wherever that is by then.
-/
namespace LineShell

structure Handle where
  location : Location
  mode : WriteMode
  position : Nat
  deriving DecidableEq, Repr

namespace Text

/-- The characters that start within the first `count` bytes. -/
def takeBytes : Nat → Text → Text
  | _, [] => []
  | 0, _ => []
  | count + 1, c :: rest => c :: takeBytes (count + 1 - c.utf8Size) rest

/-- What is left without the first `count` bytes. -/
def dropBytes : Nat → Text → Text
  | _, [] => []
  | 0, text => text
  | count + 1, c :: rest => dropBytes (count + 1 - c.utf8Size) rest

/-- A text written over another one at a position; a gap before the position is
filled with NUL. -/
def writeOver (position : Nat) (written old : Text) : Text :=
  takeBytes position old ++ List.replicate (position - byteCount old) '\x00' ++
    written ++
    dropBytes (position + byteCount written) old

@[simp] theorem takeBytes_zero (text : Text) : takeBytes 0 text = [] := by
  cases text <;> rfl

@[simp] theorem dropBytes_zero (text : Text) : dropBytes 0 text = text := by
  cases text <;> rfl

@[simp] theorem dropBytes_nil (count : Nat) : dropBytes count [] = [] := by
  cases count <;> rfl

/-- What is left is an end of the text. -/
theorem dropBytes_suffix (count : Nat) (text : Text) :
    dropBytes count text <:+ text := by
  induction text generalizing count with
  | nil => exact dropBytes_nil count ▸ List.suffix_rfl
  | cons c rest ih =>
    cases count with
    | zero => exact List.suffix_rfl
    | succ count => exact (ih _).trans (List.suffix_cons c rest)

/-- Writing over nothing from the start gives what is written. -/
@[simp] theorem writeOver_nil (written : Text) :
    writeOver 0 written [] = written := by
  simp [writeOver, byteCount]

end Text

namespace Machine

def makeDirectory (machine : Machine) (path : Path) :
    Except Refusal Machine := do
  match ← machine.locate .entry path with
  | .occupied _ => .error (.system .alreadyExists)
  | .vacant directory name =>
    let location := directory ++ [name]
    match machine.volume.refuses (.make location) with
    | some error => .error (.system error)
    | none =>
        .ok { machine with volume := machine.volume.put location .directory }

/-- What becomes of the refusal to make a directory: it does not count if the
directory is there. -/
def settle (machine : Machine) (path : Path) (refusal : Refusal) :
    Except Refusal Unit :=
  match refusal with
  | .system _ => do
    if ← machine.isDirectory path then .ok () else .error refusal
  | _ => .error refusal

/-- Makes a directory that may exist, in a directory that has to exist. -/
def makeOneDirectory (machine : Machine) (path : Path) :
    Except Refusal Unit × Machine :=
  match machine.makeDirectory path with
  | .ok made => (.ok (), made)
  | .error (.system .noEntry) => (.error (.system .noEntry), machine)
  | .error refusal => (machine.settle path refusal, machine)

/-- Makes a directory that may exist.  Where the one above it is missing, the
request waits until that is made, and at most `depth` requests can wait. -/
def makeDirectoriesWithin (depth : Nat) (machine : Machine) (path : Path) :
    Except Refusal Unit × Machine :=
  match machine.makeDirectory path with
  | .ok made => (.ok (), made)
  | .error (.system .noEntry) =>
    if path.parent = path then
      (.error (.system .noEntry), machine)
    else
      match depth with
      | 0 => (.error .tooDeep, machine)
      | depth + 1 =>
        match makeDirectoriesWithin depth machine path.parent with
        | (.ok (), made) => made.makeOneDirectory path
        | (.error refusal, made) => (.error refusal, made)
  | .error refusal => (machine.settle path refusal, machine)

/-- Makes a directory together with all that are missing above it. -/
def makeDirectories (machine : Machine) (path : Path) :
    Except Refusal Unit × Machine :=
  makeDirectoriesWithin machine.volume.nesting machine path

/-- Opens what is at a place for writing. -/
def openNode (machine : Machine) (location : Location) (mode : WriteMode) :
    Option Node → Except SystemError Machine
  | some .directory => .error .isDirectory
  | some .interpreter => .error .fileBusy
  | some (.link _) => .error .linkLoop
  | some .sink => .ok machine
  | some (.file _ executable) =>
    match mode with
    | .append => .ok machine
    | .truncate =>
      .ok { machine with
        volume := machine.volume.put location (.file [] executable) }
  | none => .ok
      { machine with volume := machine.volume.put location (.file [] false) }

/-- The place of the file that a path leads to, which may have to be made. -/
def fileLocation : Place → Location
  | .occupied location => location
  | .vacant directory name => directory ++ [name]

/-- Opens the file at a place for writing; a missing file is made. -/
def openPlace (machine : Machine) (place : Place) (mode : WriteMode) :
    Except SystemError (Handle × Machine) :=
  let location := fileLocation place
  match machine.volume.refuses (.openFile location) with
  | some error => .error error
  | none =>
    match machine.openNode location mode (machine.volume.find? location) with
    | .error error => .error error
    | .ok opened => .ok (⟨location, mode, 0⟩, opened)

def openFile (machine : Machine) (path : Path) (mode : WriteMode) :
    Except Refusal (Handle × Machine) := do
  (machine.openPlace (← machine.locate .writing path) mode).mapError
    Refusal.system

/-- The text of a file after a write through a handle. -/
def written (handle : Handle) (text old : Text) : Text :=
  match handle.mode with
  | .append => old ++ text
  | .truncate => Text.writeOver handle.position text old

/-- Writes a text through a handle; writing nothing asks for nothing. -/
def write (machine : Machine) (handle : Handle) (text : Text) :
    Except SystemError (Handle × Machine) :=
  if text.isEmpty then
    .ok (handle, machine)
  else
    match machine.volume.refuses (.write handle.location) with
    | some error => .error error
    | none =>
      let moved :=
        { handle with position := handle.position + Text.byteCount text }
      match machine.volume.find? handle.location with
      | some (.file content executable) =>
        .ok (moved, { machine with
          volume := machine.volume.put handle.location
            (.file (written handle text content) executable) })
      | some .sink => .ok (moved, machine)
      | _ => .error .badDescriptor

@[simp] theorem write_nil (machine : Machine) (handle : Handle) :
    machine.write handle [] = .ok (handle, machine) := rfl

end Machine

end LineShell
