import LineShell.Volume
import LineShell.Path

/-!
Walking along a path.  Every name is looked up in the directory reached so far;
a symbolic link is replaced by its target, at most `linkLimit` times on the way.
The last name may be missing: then the walk ends at a vacant place in an
existing directory.
-/
namespace LineShell

/-- Where a walk ends. -/
inductive Place where
  /-- Something is here. -/
  | occupied (location : Location)
  /-- Nothing has this name in this directory. -/
  | vacant (directory : Location) (name : Text)
  deriving DecidableEq, Repr

/-- A walk up to its end or to the next link on the way. -/
inductive Stretch where
  | done (place : Place)
  | link (directory : Location) (target : Text) (rest : List Text)
  | refused (error : SystemError)
  deriving DecidableEq, Repr

/-- What the end of a path is wanted for. -/
inductive Aim where
  /-- The name itself, even if it is that of a link. -/
  | entry
  /-- What the path leads to. -/
  | target
  /-- A file to be written, which may be made.  It cannot be named like a
  directory, with a slash at the end, as the target of a link may be. -/
  | writing
  deriving DecidableEq, Repr

/-- A volume seen from a working directory. -/
structure Machine where
  volume : Volume
  directory : Location

namespace Volume

def linkLimit : Nat := 40

/-- Walks from a place along names up to the next link.  A link at the very end
does not count as one where the name itself is wanted. -/
def advance (volume : Volume) (aim : Aim) : Location → List Text → Stretch
  | here, [] => .done (.occupied here)
  | here, name :: rest =>
    if volume.find? here ≠ some .directory then
      .refused .notDirectory
    else if name = [] || name = ['.'] then
      volume.advance aim here rest
    else if name = Path.up then
      volume.advance aim here.dropLast rest
    else if aim = .writing && !rest.isEmpty && rest.all List.isEmpty then
      .refused .isDirectory
    else
      match volume.refuses (.search (here ++ [name])) with
      | some error => .refused error
      | none =>
        match volume.find? (here ++ [name]) with
        | none => if rest.isEmpty then .done (.vacant here name)
            else .refused .noEntry
        | some (.link target) =>
          if rest.isEmpty && aim = .entry then
            .done (.occupied (here ++ [name]))
          else
            .link here target rest
        | some _ => volume.advance aim (here ++ [name]) rest

/-- Walks along names through at most `links` links. -/
def walk (volume : Volume) (aim : Aim) :
    Nat → Location → List Text → Except SystemError Place
  | links, here, names =>
    match volume.advance aim here names with
    | .done place => .ok place
    | .refused error => .error error
    | .link directory target rest =>
      match links with
      | 0 => .error .linkLoop
      | links + 1 =>
        volume.walk aim links (if target.head? = some '/' then []
          else directory)
          (Text.splitOn '/' target ++ rest)

end Volume

namespace Machine

/-- Where a path starts. -/
def origin (machine : Machine) (path : Path) : Location :=
  if path.isAbsolute then [] else machine.directory

def locate (machine : Machine) (aim : Aim) (path : Path) :
    Except Refusal Place :=
  if path.toText.contains '\x00' then
    .error .nulCharacter
  else
    match machine.volume.refuses (.spell path.toText) with
    | some error => .error (.system error)
    | none =>
      (machine.volume.walk aim Volume.linkLimit (machine.origin path)
        path.parts).mapError Refusal.system

/-- The place that a path leads to as it is written: a slash at its end asks for
a directory. -/
def locateText (machine : Machine) (aim : Aim) (text : Text) :
    Except SystemError Place :=
  if text.isEmpty then
    .error .noEntry
  else
    match machine.volume.refuses (.spell text) with
    | some error => .error error
    | none =>
      machine.volume.walk aim Volume.linkLimit
        (if text.head? = some '/' then []
          else machine.directory) (Text.splitOn '/' text)

/-- What is at a place, and where that is. -/
def nodeAt (machine : Machine) : Place → Except SystemError (Location × Node)
  | .vacant _ _ => .error .noEntry
  | .occupied location =>
    match machine.volume.refuses (.examine location) with
    | some error => .error error
    | none =>
      match machine.volume.find? location with
      | none => .error .noEntry
      | some node => .ok (location, node)

/-- What is at the end of a path, links followed, and where that is. -/
def examine (machine : Machine) (path : Path) :
    Except Refusal (Location × Node) := do
  (machine.nodeAt (← machine.locate .target path)).mapError Refusal.system

/-- What is at the end of a path as it is written, links followed, and where
that is. -/
def examineText (machine : Machine) (text : Text) :
    Except SystemError (Location × Node) := do
  machine.nodeAt (← machine.locateText .target text)

/-- Whether the end of a path satisfies `holds`; a path that leads nowhere does
not, and any other refusal is passed on. -/
def test (machine : Machine) (holds : Node → Bool) (path : Path) :
    Except Refusal Bool :=
  match machine.examine path with
  | .ok (_, node) => .ok (holds node)
  | .error refusal => if refusal.isAbsence then .ok false else .error refusal

def isDirectory (machine : Machine) (path : Path) : Except Refusal Bool :=
  machine.test (fun node => node = .directory) path

def isExecutable (machine : Machine) (path : Path) : Except Refusal Bool :=
  machine.test (fun node => node.isFile && node.isExecutable) path

def list (machine : Machine) (path : Path) : Except Refusal (List Text) := do
  let (location, node) ← machine.examine path
  if node = .directory then
    match machine.volume.refuses (.list location) with
    | some error => .error (.system error)
    | none => .ok (machine.volume.names location)
  else
    .error (.system .notDirectory)

def absolute (machine : Machine) (path : Path) : Path :=
  (Path.mk .single machine.directory).join path

theorem isAbsolute_absolute (machine : Machine) (path : Path) :
    (machine.absolute path).isAbsolute = true :=
  Path.isAbsolute_join rfl

end Machine

end LineShell
