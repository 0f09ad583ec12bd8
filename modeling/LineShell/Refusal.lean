import LineShell.Text

/-!
Why a request to the machine fails: an error of the system, a text that cannot
be handed to it, or too many requests that wait for one another.
-/
namespace LineShell

inductive SystemError where
  | noEntry
  | notDirectory
  | badDescriptor
  | linkLoop
  | alreadyExists
  | isDirectory
  | nameTooLong
  | noSpace
  | permissionDenied
  | readOnlyFiles
  | inputOutput
  | fileBusy
  | badFormat
  | argumentsTooLong
  /-- Any other error, with its words. -/
  | other (words : Text)
  deriving DecidableEq, Repr

/-- Why a request failed. -/
inductive Refusal where
  /-- The system answered with an error. -/
  | system (error : SystemError)
  /-- A text to be handed over holds the character NUL. -/
  | nulCharacter
  /-- The name of an environment variable holds an equals sign. -/
  | badVariableName
  /-- Too many requests wait for one another; this is no answer of the
  system. -/
  | tooDeep
  deriving DecidableEq, Repr

namespace SystemError

def message : SystemError → Text
  | .noEntry => "No such file or directory".toList
  | .notDirectory => "Not a directory".toList
  | .badDescriptor => "Bad file descriptor".toList
  | .linkLoop => "Too many levels of symbolic links".toList
  | .alreadyExists => "File exists".toList
  | .isDirectory => "Is a directory".toList
  | .nameTooLong => "File name too long".toList
  | .noSpace => "No space left on device".toList
  | .permissionDenied => "Permission denied".toList
  | .readOnlyFiles => "Read-only file system".toList
  | .inputOutput => "Input/output error".toList
  | .fileBusy => "Text file busy".toList
  | .badFormat => "Exec format error".toList
  | .argumentsTooLong => "Argument list too long".toList
  | .other words => words

/-- Whether an error says that there is nothing at a path, rather than that the
question could not be answered. -/
def isAbsence : SystemError → Bool
  | .noEntry | .notDirectory | .badDescriptor | .linkLoop => true
  | _ => false

end SystemError

namespace Refusal

def message : Refusal → Text
  | .system error => error.message
  | .nulCharacter => "embedded null byte".toList
  | .badVariableName => "illegal environment variable name".toList
  | .tooDeep => "maximum recursion depth exceeded".toList

/-- Whether a refusal says that there is nothing at a path; no path holds
NUL. -/
def isAbsence : Refusal → Bool
  | .system error => error.isAbsence
  | .nulCharacter => true
  | .badVariableName => false
  | .tooDeep => false

end Refusal

end LineShell
