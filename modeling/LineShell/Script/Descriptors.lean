import LineShell.Script.State
import LineShell.Text.Bytes

/-!
What the descriptors of a script are open for, and reading and writing through
them.  Descriptors that were made from one another share a place in the list of
what is open, and so the position in a file.  What is read is what a file holds
by then.
-/
namespace LineShell.Script

namespace Direction

def reads : Direction → Bool
  | .writing => false
  | _ => true

def writes : Direction → Bool
  | .reading => false
  | _ => true

end Direction

namespace State

/-- Lets a descriptor go to a place in the list of what is open, or closes
it. -/
def redirect (state : State) (descriptor : Nat) (place : Option Nat) : State :=
  let others := state.descriptors.filter fun entry => entry.1 ≠ descriptor
  { state with descriptors := (place.map fun found =>
    (descriptor, found)).toList ++ others }

def openAs (state : State) (descriptor : Nat) (opened : Opened) : State :=
  { state with opened := state.opened ++ [opened] }.redirect descriptor
    (some state.opened.length)

/-- Writes to a file in bytes; the answer tells how far the handle moves. -/
def writeFile (machine : Machine) (handle : Handle) (bytes : Text) :
    Except SystemError (Handle × Machine) :=
  match machine.volume.refuses (.write handle.location),
    machine.volume.find? handle.location with
  | some error, _ => .error error
  | none, some (.file content executable) =>
    let old := Text.Bytes.encode content
    let start :=
      match handle.mode with
      | .append => old.length
      | .truncate => handle.position
    let changed :=
      old.take start ++ List.replicate (start - old.length) '\x00' ++ bytes ++
      old.drop (start + bytes.length)
    .ok ({ handle with position := start + bytes.length },
      { machine with
        volume := machine.volume.put handle.location
          (.file (Text.Bytes.decode changed) executable) })
  | none, some .sink => .ok (handle, machine)
  | none, _ => .error .badDescriptor

/-- Writes bytes to what is at a place in the list of what is open; the answer
tells whether they were taken. -/
def writeAt (state : State) (place : Nat) (bytes : Text) : Bool × State :=
  match state.opened[place]? with
  | some (.console stream) =>
      (true, { state with written := state.written.write stream bytes })
  | some (.file handle direction) =>
    if bytes.isEmpty then
      (true, state)
    else if !direction.writes then
      (false, state)
    else
      match writeFile state.machine handle bytes with
      | .ok (moved, machine) =>
        (true, { state with
          machine := machine
          opened := state.opened.set place (.file moved direction) })
      | .error _ => (false, state)
  | some (.collector content) =>
    (true, { state with
      opened := state.opened.set place (.collector (content ++ bytes)) })
  | some (.source _) => (bytes.isEmpty, state)
  | none => (bytes.isEmpty, state)

def write (state : State) (descriptor : Nat) (bytes : Text) : Bool × State :=
  match state.descriptors.lookup descriptor with
  | none => (bytes.isEmpty, state)
  | some place => state.writeAt place bytes

/-- What is left to be read of what is at a place in the list of what is
open. -/
def remaining (state : State) (place : Nat) : Text :=
  match state.opened[place]? with
  | some (.source rest) => rest
  | some (.file handle direction) =>
    match direction.reads, state.machine.volume.find? handle.location with
    | true, some (.file content _) =>
        (Text.Bytes.encode content).drop handle.position
    | _, _ => []
  | _ => []

/-- Passes over so many bytes of what is left to be read at a place. -/
def pass (state : State) (place count : Nat) : State :=
  match state.opened[place]? with
  | some (.source rest) =>
    { state with opened := state.opened.set place (.source (rest.drop count)) }
  | some (.file handle direction) =>
    let moved := { handle with position := handle.position + count }
    { state with opened := state.opened.set place (.file moved direction) }
  | _ => state

def writtenFiles (state : State) : List Location :=
  state.descriptors.filterMap fun (_, place) =>
    match state.opened[place]? with
    | some (.file handle direction) => if direction.writes then
        some handle.location
      else none
    | _ => none

/-- What has been passed over is not left to be read. -/
theorem remaining_pass {state : State} {place : Nat}
    (here : place < state.opened.length) (count : Nat) :
    (state.pass place count).remaining place =
      (state.remaining place).drop count := by
  unfold pass
  split <;> simp_all [remaining]
  split <;> simp_all

end State

end LineShell.Script
