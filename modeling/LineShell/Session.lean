import LineShell.Path.Normal
import LineShell.Text.Blank

/-!
The session: the current directory, the names of the builtins, and the
environment.  From these follow the search path, the home directory, and the
directory that an argument of `cd` means.
-/
namespace LineShell

/-- What the shell remembers from one line to the next. -/
structure Session where
  cwd : Path
  builtinNames : List Text
  environment : List (Text × Text)
  deriving DecidableEq, Repr

namespace Session

def isBuiltin (session : Session) (name : Text) : Bool :=
  session.builtinNames.contains name

def value? (session : Session) (name : Text) : Option Text :=
  session.environment.lookup name

/-- The directories in which executables are looked up, in order. -/
def searchPath (session : Session) : List Text :=
  (Text.splitOn ':'
    ((session.value? "PATH".toList).getD [])).filter fun entry => !entry.isEmpty

/-- The variables that may name the home directory; the first one with a value
does. -/
def homeVariables : List Text := ["HOME".toList, "USERPROFILE".toList]

def home? (session : Session) : Option Path :=
  (homeVariables.findSome? fun name =>
    (session.value? name).filter fun value => !value.isEmpty).map Path.ofText

/-- A text with backslashes turned into slashes. -/
def withSlashes (text : Text) : Text := Text.replace '\\' '/' text

/-- What an argument of `cd` names below the home directory: an argument of
blanks only is the home directory itself, and so is a tilde; a tilde and slashes
may be followed by a path. -/
def belowHome? (argument : Text) : Option Text :=
  match withSlashes (Text.trimStart argument) with
  | [] => some []
  | ['~'] => some []
  | '~' :: '/' :: rest => some (rest.dropWhile (· = '/'))
  | _ => none

/-- The directory that an argument of `cd` means, in normal form; none if it is
to be found from a home directory that is not set. -/
def target? (session : Session) (argument : Text) : Option Path :=
  let path? : Option Path :=
    match belowHome? argument with
    | some below => session.home?.map fun home => home.join (Path.ofText below)
    | none => some (Path.ofText (withSlashes argument))
  path?.map fun path => (session.cwd.join path).normal

/-- Only an argument that starts at the home directory can have no target. -/
theorem target?_isSome_of_belowHome?_none
    {session : Session} {argument : Text} (h : belowHome? argument = none) :
    (session.target? argument).isSome = true := by
  simp [target?, h]

/-- From an absolute directory every target is absolute. -/
theorem isAbsolute_of_target? {session : Session}
    {argument : Text} {path : Path} (habsolute : session.cwd.isAbsolute = true)
    (h : session.target? argument = some path) :
    path.isAbsolute = true := by
  obtain ⟨raw, -, rfl⟩ := Option.map_eq_some_iff.1 h
  simpa using Path.isAbsolute_join habsolute

/-- From a proper directory every target is in normal form. -/
theorem isNormal_of_target? {session : Session}
    {argument : Text} {path : Path} (hproper : session.cwd.IsProper)
    (h : session.target? argument = some path) :
    path.IsNormal := by
  obtain ⟨raw, hraw, rfl⟩ := Option.map_eq_some_iff.1 h
  refine Path.isNormal_normal (hproper.join ?_)
  cases hbelow : belowHome? argument with
  | none =>
    simp only [hbelow, Option.some.injEq] at hraw
    exact hraw ▸ Path.isProper_ofText _
  | some below =>
    simp only [hbelow] at hraw
    obtain ⟨home, hhome, rfl⟩ := Option.map_eq_some_iff.1 hraw
    obtain ⟨text, -, rfl⟩ := Option.map_eq_some_iff.1 hhome
    exact (Path.isProper_ofText text).join (Path.isProper_ofText below)

end Session

end LineShell
