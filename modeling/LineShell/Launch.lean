import LineShell.Script.Header

/-!
Launching a file.  A file that may be run names its interpreter after `#!` on
its first line; an interpreter can name one in turn.  In the end there is the
only program of the machine, which runs scripts, and the arguments with which it
is called.

No file that is open for writing can be launched.
-/
namespace LineShell

/-- What is handed over to a program. -/
structure Launch where
  /-- The name under which it is called, and the arguments. -/
  arguments : List Text
  /-- The whole environment. -/
  environment : List (Text × Text)
  deriving DecidableEq, Repr

namespace Launch

/-- The greatest number of bytes of one argument or variable. -/
def argumentLimit : Nat := 131071

/-- The greatest number of files of which one names the next. -/
def chainLimit : Nat := 6

/-- A variable as it is handed over. -/
def binding (pair : Text × Text) : Text := pair.1 ++ '=' :: pair.2

def texts (launch : Launch) : List Text :=
  launch.arguments ++ launch.environment.map binding

def isTooLong (launch : Launch) : Bool :=
  launch.texts.any fun text => argumentLimit < Text.byteCount text

/-- Looks for a file that may be run and is not open for writing. -/
def seek (machine : Machine) (written : List Location) (file : Text) :
    Except SystemError Node := do
  let (location, node) ← machine.examineText file
  if !(node.isFile && node.isExecutable) then
    .error .permissionDenied
  else if written.contains location then
    .error .fileBusy
  else
    .ok node

/-- The arguments of the program in the end, after files that name the next one;
no name at all is that of the current directory. -/
def follow (machine : Machine) (written : List Location) :
    Nat → Node → Text → List Text → Except SystemError (List Text)
  | 0, _, _, _ => .error .linkLoop
  | chain + 1, node, file, arguments =>
    match node with
    | .file content _ =>
      match Script.Header.ofContent? content with
      | none => .error .badFormat
      | some header => do
        let interpreter := header.interpreter
        let next ← seek machine written (if interpreter.isEmpty then ['.']
          else interpreter)
        follow machine written chain next interpreter
          (interpreter :: header.options ++ file :: arguments.drop 1)
    | _ => .ok arguments

/-- The arguments with which the program that runs scripts is called in the end,
where `written` are the files that are open for writing. -/
def resolve (launch : Launch) (machine : Machine) (written : List Location)
    (file : Text) : Except SystemError (List Text) := do
  let node ← seek machine written file
  if launch.isTooLong then
    .error .argumentsTooLong
  else
    follow machine written chainLimit node file launch.arguments

end Launch

end LineShell
