import LineShell.Path.Normal
import LineShell.Script.Expansion
import LineShell.Script.Options

/-!
Places on the volume as a script knows them: the current directory, which has a
name by the way it was entered, and the files that are found along a list of
directories.
-/
namespace LineShell.Script

namespace State

/-- What is at a path in bytes, links followed, and where that is. -/
def examine (state : State) (path : Text) :
    Except SystemError (Location × Node) :=
  state.machine.examineText (Text.Bytes.decode path)

def directoryAt? (state : State) (path : Text) : Option Location :=
  match state.examine path with
  | .ok (location, .directory) => some location
  | _ => none

/-- The name of the current directory without links. -/
def physicalDirectory (state : State) : Text :=
  Text.Bytes.encode (Path.mk .single state.machine.directory).toText

def searchPath (state : State) : Text := (state.value? "PATH".toList).getD []

end State

namespace Places

/-- The paths of a name in directories that are parted by colons; nothing
between colons is the current directory. -/
def candidates (directories name : Text) : List Text :=
  (Text.splitOn ':' directories).map fun directory =>
    if directory.isEmpty then name else directory ++ '/' :: name

/-- The paths from the first one on that leads to what is wanted, and what is
wrong if none does. -/
def files (state : State) (wanted : Node → Bool) :
    SystemError → List Text → List Text × SystemError
  | error, [] => ([], error)
  | error, path :: rest =>
    match state.examine path with
    | .ok (_, node) =>
      if wanted node then (path :: rest, error)
      else files state wanted .permissionDenied rest
    | .error found =>
      let absent := found = .noEntry || found = .notDirectory
      files state wanted (if absent then error else found) rest

/-- The paths from the first one on along directories that leads to a
program. -/
def programs (state : State) (directories name : Text) :
    List Text × SystemError :=
  files state (fun node => node.isFile && node.isExecutable) .noEntry
    (candidates directories name)

/-- Whether a path is told apart from a name that is looked up: it starts at the
root, at the current directory, or above it. -/
def isDirect (path : Text) : Bool :=
  path.head? = some '/' ||
    (match Text.splitOn '/' path with
    | first :: _ => first = ['.'] || first = ['.', '.']
    | [] => false)

/-- Enters a directory; the answer tells whether that is possible. -/
def enter (path : Text) (physical : Bool) : Action Bool := do
  let state ← get
  let logical :=
    ((Path.ofText state.directory).join (Path.ofText path)).normal.toText
  match state.directoryAt? (if physical then path else logical) with
  | none => return false
  | some location =>
    let entered :=
      { state with machine := { state.machine with directory := location } }
    let name := if physical then entered.physicalDirectory else logical
    set { entered with directory := name }
    Action.assign "OLDPWD".toList state.directory
    Action.assign "PWD".toList name
    modify fun changed => (changed.hand "OLDPWD".toList).hand "PWD".toList
    modify fun changed =>
      { changed with
        known := changed.known.map fun entry =>
          (entry.1, { entry.2 with stale := true }) }
    return true

/-- Whether the options of the builtins on directories ask for a name without
links. -/
def isPhysical (options : List (Char × Text)) : Bool :=
  (options.getLast?.map Prod.fst) = some 'P'

def change (arguments : List Text) : Action Nat := do
  let (options, rest) ← Action.demandOptions
    (Options.read "LP".toList [] arguments)
  let state ← get
  let back := rest.head? = some ['-']
  let wanted :=
    match rest with
    | [] => (state.value? "HOME".toList).getD []
    | argument :: _ => if back then (state.value? "OLDPWD".toList).getD []
        else argument
  let target := if wanted.isEmpty then ['.'] else wanted
  let found? : Option Text :=
    match state.value? "CDPATH".toList with
    | some directories =>
      if isDirect wanted then none
      else (candidates directories target).find? fun path =>
        (state.directoryAt? path).isSome
    | none => none
  let path := found?.getD target
  if ← enter path (isPhysical options) then
    if back || (found?.isSome && path ≠ target) then
      Action.finish ((← get).directory ++ ['\n']) 0
    else
      return 0
  else
    Action.refuse ("can't cd to ".toList ++ target)

def tell (arguments : List Text) : Action Nat := do
  let (options, _) ← Action.demandOptions
    (Options.read "LP".toList [] arguments)
  let state ← get
  Action.finish
    ((if isPhysical options then state.physicalDirectory
      else state.directory) ++ ['\n']) 0

end Places

end LineShell.Script
