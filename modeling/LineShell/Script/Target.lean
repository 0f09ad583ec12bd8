import LineShell.Script.Runner

/-!
Redirections of a script.  The words of all targets of a command are expanded
before the first file is opened, but a text below the command only when its turn
comes; after the command the descriptors are what they were.
-/
namespace LineShell.Script

namespace Runner

/-- The target of a redirection with its words expanded. -/
inductive Ready where
  | file (opening : Opening) (path : Text)
  | copy (descriptor : Option Nat)
  | text (number : Nat)
  deriving DecidableEq, Repr

def prepare (run : Runner) : Target → Action Ready
  | .file opening path =>
      return .file opening (← Expansion.textOf run.output false path)
  | .copy word => do
    match ← Expansion.textOf run.output false word with
    | ['-'] => return .copy none
    | text =>
      match if text.length = 1 then Arithmetic.natural? text else none with
      | some descriptor => return .copy (some descriptor)
      | none => do
        modify fun state => { state with line := state.reading }
        Action.refuse Flaw.badDescriptor.message
  | .text number => return .text number

/-- What is said about an error when a file is opened. -/
def refusal (creating : Bool) : SystemError → Text
  | .noEntry =>
      (if creating then "Directory nonexistent" else "No such file").toList
  | .notDirectory =>
      (if creating then "Directory nonexistent" else "No such file").toList
  | error => error.message

/-- Opens a file for reading; the answer is its place in the list of what is
open. -/
def openForReading (path : Text) : Action Nat := do
  let state ← get
  let put (opened : Opened) : Action Nat := do
    set { state with opened := state.opened ++ [opened] }
    return state.opened.length
  match state.examine path with
  | .ok (location, .file _ _) => put (.file ⟨location, .truncate, 0⟩ .reading)
  | .ok _ => put (.source [])
  | .error error =>
    Action.refuse
      ("cannot open ".toList ++ path ++ ": ".toList ++ refusal false error)

def openForWriting (descriptor : Nat) (path : Text) (opening : Opening) :
    Action Unit := do
  let state ← get
  let give (error : SystemError) : Action Unit :=
    Action.refuse
      ("cannot create ".toList ++ path ++ ": ".toList ++ refusal true error)
  let kept :=
    match opening, state.examine path with
    | .truncate, .ok (_, node) => state.has 'C' && node.isFile
    | _, _ => false
  if kept then
    give .alreadyExists
  else
    let mode :=
      match opening with
      | .append => WriteMode.append
      | .update => .append
      | _ => .truncate
    let place := state.machine.locateText .writing (Text.Bytes.decode path)
    match place.bind fun found => state.machine.openPlace found mode with
    | .error error => give error
    | .ok (handle, machine) =>
      let opened :=
        if opening = .update then
          Opened.file { handle with mode := .truncate } .both
        else .file handle .writing
      set ({ state with machine := machine }.openAs descriptor opened)

def redirect (run : Runner) (descriptor : Nat) : Ready → Action Unit
  | .file .read path => do
    let place ← openForReading path
    modify fun state => state.redirect descriptor (some place)
  | .file opening path => openForWriting descriptor path opening
  | .copy none => modify fun state => state.redirect descriptor none
  | .copy (some other) => do
    if other ≠ descriptor then
      match (← get).descriptors.lookup other with
      | some place => modify fun state => state.redirect descriptor (some place)
      | none =>
        Action.refuse (Nat.toDigits 10 other ++ ": Bad file descriptor".toList)
  | .text number => do
    let word := ((← get).texts.lookup number).getD []
    let content :=
      Item.text (← Expansion.ofPieces run.output true false false word)
    modify fun state => state.openAs descriptor (.source content)

/-- Lets descriptors go to their targets.  One that has not been `moved` yet is
moved away first, so that nothing can be told of the descriptor for errors being
sent nowhere. -/
def redirectAll (run : Runner) : List Nat → List (Nat × Ready) → Action Unit
  | _, [] => return
  | moved, (descriptor, target) :: rest => do
    let moves :=
      match target with
      | .copy (some other) => other ≠ descriptor && !moved.contains descriptor
      | _ => false
    if moves then modify fun state => state.redirect descriptor none
    redirect run descriptor target
    redirectAll run (descriptor :: moved) rest

/-- Does something with descriptors redirected, which go back afterwards unless
they are kept.  If a target cannot be reached, `fail` is done instead. -/
def redirected (run : Runner) (targets : List (Nat × Target)) (keeps : Bool)
    (fail action : Action Unit) : Action Unit := do
  let ready ← targets.mapM fun (descriptor, target) => do
    return (descriptor, ← prepare run target)
  let old := (← get).descriptors
  let restore : Action Unit := modify fun state =>
    targets.foldl (fun changed entry =>
      changed.redirect entry.1 (old.lookup entry.1)) state
  let all : Action Unit := do
    match ← Action.attempt (redirectAll run [] ready) with
    | .ok () => action
    | .error .fault => fail
    | .error jump => throw jump
  match ← Action.attempt all with
  | .ok () => if !keeps then restore
  | .error jump =>
    restore
    throw jump

end Runner

end LineShell.Script
