import LineShell.Token.Lexer

/-!
Commands: what one line asks for.  The first word that is not the target of a
redirection is the name, the other such words are the arguments, and every
redirection operator takes the word right after it as its target.
-/
namespace LineShell

/-- A name, its arguments, and the redirections, at most one for each stream. -/
structure Command where
  name : Text
  arguments : List Text
  redirections : List Redirection
  deriving DecidableEq, Repr

namespace Command

/-- A command of which the name may still be missing. -/
structure Draft where
  name : Option Text
  arguments : List Text
  redirections : List Redirection
  deriving DecidableEq, Repr

namespace Draft

def empty : Draft := ⟨none, [], []⟩

/-- Takes a word as the name, or as the next argument. -/
def addWord (draft : Draft) (text : Text) : Draft :=
  match draft.name with
  | none => { draft with name := some text }
  | some _ => { draft with arguments := draft.arguments ++ [text] }

def addRedirection (draft : Draft) (redirection : Redirection) : Draft :=
  { draft with redirections := redirection.insert draft.redirections }

/-- Takes all tokens, from the left. -/
def read (draft : Draft) : List Token → Except LineError Draft
  | [] => .ok draft
  | ⟨.pipe, _⟩ :: _ => .error .pipeline
  | ⟨.redirect, _⟩ :: [] => .error .missingTarget
  | ⟨.redirect, text⟩ :: ⟨.word, target⟩ :: rest =>
    match Operator.ofText? text with
    | none => .error (.unknownOperator text)
    | some operator =>
        (draft.addRedirection (operator.toTarget target)).read rest
  | ⟨.redirect, _⟩ :: ⟨_, text⟩ :: _ => .error (.unexpected text)
  | ⟨_, text⟩ :: rest => (draft.addWord text).read rest

/-- The command, once it has a name. -/
def finish (draft : Draft) : Except LineError Command :=
  match draft.name with
  | none => .error .missingName
  | some name => .ok ⟨name, draft.arguments, draft.redirections⟩

end Draft

def ofTokens (tokens : List Token) : Except LineError Command := do
  (← Draft.empty.read tokens).finish

def ofLine (line : Text) : Except LineError Command := do
  ofTokens (← Token.ofLine line)

/-- Redirections put into the order of their streams, as in a command. -/
def withRedirections (name : Text) (arguments : List Text)
    (redirections : List Redirection) : Command :=
  ⟨name, arguments,
    redirections.foldl (fun kept redirection => redirection.insert kept) []⟩

def isRedirected (command : Command) : Bool := !command.redirections.isEmpty

example : ofLine ">a echo 2>b x >>c".toList =
    .ok ⟨"echo".toList, ["x".toList],
      [⟨.output, .append, "c".toList⟩, ⟨.errors, .truncate, "b".toList⟩]⟩ := rfl

example : ofLine "> > x".toList = .error (.unexpected ['>']) := rfl

end Command

end LineShell
