import LineShell.Lookup

/-!
Completing the command word: the builtins and executables whose names start with
what stands before the cursor.
-/
namespace LineShell

/-- A proposal: the text that takes the place of the `-start` characters before
the cursor, and how the proposal is shown. -/
structure Completion where
  text : Text
  start : Int
  display : Text
  deriving DecidableEq, Repr

namespace Completion

/-- The set of names that start with a text. -/
def candidates (session : Session) (machine : Machine) (start : Text) :
    Except Refusal (List Text) := do
  let builtins := session.builtinNames.filter start.isPrefixOf
  let executables ← machine.executableNames start session.searchPath
  return nameSet (builtins ++ executables)

/-- The proposal of a name in the place of the word typed so far. -/
def ofName (typed name : Text) : Completion :=
  ⟨name ++ [' '], -(typed.length : Int), name⟩

/-- The proposals for the text before the cursor; none once a space follows the
command word. -/
def proposals (session : Session) (machine : Machine) (beforeCursor : Text) :
    Except Refusal (List Completion) :=
  let typed := Text.trimStart beforeCursor
  if typed.contains ' ' then
    .ok []
  else
    (candidates session machine typed).map fun names => names.map (ofName typed)

end Completion

end LineShell
